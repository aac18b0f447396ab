import KeyedComposite.Log.Attr
import KeyedComposite.Text.Quoted
import KeyedComposite.Text.Blank

/-! # Console log lines

A console line is `TIME LEVEL [component: ]message key=value…`: the record's time in RFC
3339, the level's word (coloured on request: grey, blue, yellow, red from debug to error),
the trimmed message and the fields. Fields are the writer's attributes followed by the
record's, each group's members under `group.key`, all under the writer's groups. The last
field keyed exactly `component` becomes the prefix, and every such field leaves the list.

Texts are quoted when empty or holding a blank, tab, newline, quote or `=`; failures are
always quoted; spans and instants are written in their short forms.
-/
namespace KeyedComposite.Log.Console

def colorCode (l : Level) : String :=
  match l.label with
  | "ERROR" => "\x1b[31m"
  | "WARN" => "\x1b[33m"
  | "DEBUG" => "\x1b[90m"
  | _ => "\x1b[34m"

def levelText (color : Bool) (l : Level) : String :=
  if color then colorCode l ++ l.label ++ "\x1b[0m" else l.label

def dotted (path : List String) (key : String) : String :=
  if path = [] then key else ".".intercalate path ++ "." ++ key

mutual
def attrFields (path : List String) : Attr → List (String × Value)
  | .empty => []
  | .field k v => [(dotted path k, v)]
  | .group k ms => fieldsAll (if k = "" then path else path ++ [k]) ms

def fieldsAll (path : List String) : List Attr → List (String × Value)
  | [] => []
  | a :: rest => attrFields path a ++ fieldsAll path rest
end

def needsQuotes (s : String) : Bool :=
  s = "" || s.any fun c => c = ' ' || c = '\t' || c = '\n' || c = '"' || c = '='

def valueText : Value → String
  | .str s => if needsQuotes s then Quoted.quote s else s
  | .span s => s.text
  | .instant t => t.rfc3339
  | .failure m => Quoted.quote m
  | v => v.text

def line (color : Bool) (groups : List String) (attrs : List Attr) (r : Record) : String :=
  let kvs := fieldsAll groups (attrs ++ r.attrs)
  let component := match (kvs.filter (·.1 == "component")).getLast? with
    | some (_, v) => v.text
    | none => ""
  let fields := kvs.filter (·.1 != "component")
  r.time.rfc3339 ++ " " ++ levelText color r.level ++ " " ++
    (if component = "" then "" else component ++ ": ") ++ Blank.trim r.message ++
    String.join (fields.map fun (k, v) => " " ++ k ++ "=" ++ valueText v) ++ "\n"

end KeyedComposite.Log.Console
