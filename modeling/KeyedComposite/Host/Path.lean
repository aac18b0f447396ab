/-! # Slash-separated file paths

A path is text whose elements are separated by `/`; a leading `/` makes it absolute.
`clean` gives the shortest equivalent path by reading it element by element: empty
elements and `.` are dropped, `..` removes the element before it (at the root it is
dropped, in a relative path with nothing left to remove it stays), and an empty result
is `.`. `join` cleans the nonempty parts joined by `/`; `abs` resolves a relative path
against a working directory.
-/
namespace KeyedComposite.PathName

def elements (p : String) : List String := (p.toList.splitOn '/').map String.ofList

def resolveElements (rooted : Bool) : List String → List String → List String
  | [], acc => acc.reverse
  | e :: rest, acc =>
    if e = "" ∨ e = "." then resolveElements rooted rest acc
    else if e = ".." then
      match acc with
      | last :: before =>
        if last = ".." then resolveElements rooted rest (".." :: acc)
        else resolveElements rooted rest before
      | [] => if rooted then resolveElements rooted rest [] else resolveElements rooted rest [".."]
    else resolveElements rooted rest (e :: acc)

def isAbs (p : String) : Bool := p.startsWith "/"

def clean (p : String) : String :=
  let rooted := isAbs p
  let body := "/".intercalate (resolveElements rooted (elements p) [])
  if rooted then "/" ++ body else if body = "" then "." else body

/-- The nonempty parts joined by `/` and cleaned; empty when all parts are. -/
def join (parts : List String) : String :=
  match parts.filter (· ≠ "") with
  | [] => ""
  | ps => clean ("/".intercalate ps)

def abs (workingDir p : String) : String :=
  if isAbs p then clean p else join [workingDir, p]

def base (p : String) : String :=
  if p = "" then "."
  else
    let trimmed := String.ofList ((p.toList.reverse.dropWhile (· = '/')).reverse)
    if trimmed = "" then "/"
    else (elements trimmed).getLastD trimmed

def dir (p : String) : String :=
  let cs := p.toList
  let keep := (cs.reverse.dropWhile (· ≠ '/')).reverse
  clean (String.ofList keep)

end KeyedComposite.PathName
