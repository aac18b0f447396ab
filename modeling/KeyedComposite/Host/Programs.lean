import KeyedComposite.Text.Quoted

/-! # Programs of the host

The tool runs external programs (a video encoder, a renderer). The host it runs on has
two small programs installed, `true` (which succeeds) and `false` (which fails with exit
status 1), under `/usr/bin` and `/bin`, and programs given by a bare name are searched
for in those two directories in that order. No other program exists, and none of them
writes any output.

`lookPath` finds a program: a name with a `/` is taken as a path, any other name is
searched for. `run` says how running a program ends.
-/
namespace KeyedComposite.Host

def searchPath : List String := ["/usr/bin", "/bin"]

def installed : List String := ["true", "false"]

def isProgram (path : String) : Bool :=
  searchPath.any fun d => installed.any fun n => path = d ++ "/" ++ n

/-- Why a program cannot be found. -/
inductive LookupError where
  | notInSearchPath (name : String)
  | noFile (path : String)

def LookupError.message : LookupError → String
  | .notInSearchPath n => "exec: " ++ Quoted.quote n ++ ": executable file not found in $PATH"
  | .noFile p => "exec: " ++ Quoted.quote p ++ ": stat " ++ p ++ ": no such file or directory"

def lookPath (name : String) : Except LookupError String :=
  if name.contains '/' then (if isProgram name then .ok name else .error (.noFile name))
  else
    match searchPath.find? (fun d => isProgram (d ++ "/" ++ name)) with
    | some d => .ok (d ++ "/" ++ name)
    | none => .error (.notInSearchPath name)

/-- Why running a program failed. -/
inductive RunError where
  | notFound (e : LookupError)
  | cannotStart (path : String)
  | exitStatus (code : Nat)

def RunError.message : RunError → String
  | .notFound e => e.message
  | .cannotStart p => "fork/exec " ++ p ++ ": no such file or directory"
  | .exitStatus c => "exit status " ++ toString c

def run (name : String) : Except RunError Unit :=
  let path : Except RunError String :=
    if name.contains '/' then .ok name
    else (lookPath name).mapError RunError.notFound
  match path with
  | .error e => .error e
  | .ok p =>
    if !isProgram p then .error (.cannotStart p)
    else if p.endsWith "/false" then .error (.exitStatus 1)
    else .ok ()

end KeyedComposite.Host
