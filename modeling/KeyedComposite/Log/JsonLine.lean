import KeyedComposite.Log.Attr
import KeyedComposite.Text.Quoted
import KeyedComposite.Text.LowerCase

/-! # JSON log lines

A JSON line is one object: `ts` (the record's time at UTC, to the second), `level` (the
level's name in lower case), `msg`, then the fields. The writer's attributes stand at the
level of the group that was open when they were added, and the record's attributes in the
innermost group; a group, whether opened by the writer or given as an attribute, is
written only when something is written inside it, and an attribute group with an empty
key merges into its level. A group given as an attribute whose members write nothing
leaves no text, but the member after it then follows without a comma.

Any field keyed `time` is renamed `ts`, an instant under it becoming its UTC text; any
field keyed `level` gets the lower-cased text of its value. Strings escape the quote, the
backslash, control characters (`\n`, `\r`, `\t` by name) and U+2028, U+2029; numbers
follow the JSON number form, and a number that is not finite becomes an error text, as
does the year of an instant outside 0 to 9999 (written before the instant).
-/
namespace KeyedComposite.Log.JsonLine

def escapeChar (c : Char) : String :=
  match c.toNat with
  | 0x22 => "\\\""
  | 0x5C => "\\\\"
  | 0x0A => "\\n"
  | 0x0D => "\\r"
  | 0x09 => "\\t"
  | 0x2028 => "\\u2028"
  | 0x2029 => "\\u2029"
  | n => if n < 0x20 then "\\u00" ++ String.ofList (Quoted.hexWidth 2 n) else c.toString

def quote (s : String) : String := "\"" ++ String.join (s.toList.map escapeChar) ++ "\""

def floatText (f : Float) : String :=
  match FloatText.special f with
  | some s => quote ("!ERROR:json: unsupported value: " ++ s)
  | none => FloatText.json f

/-- An instant as RFC 3339 text with the fraction of the second. RFC 3339 years have
four digits, so a year outside 0 to 9999 is flagged by an error text before it. -/
def instantText (t : Instant) : String :=
  (if t.year < 0 ∨ t.year ≥ 10000 then quote "!ERROR:time.Time year outside of range [0,9999]"
    else "") ++ quote t.rfc3339Nano

def valueText : Value → String
  | .str s => quote s
  | .int i => decimal i
  | .nat n => decimal n
  | .float f => floatText f
  | .bool b => if b then "true" else "false"
  | .span s => decimal s.nanos
  | .instant t => instantText t
  | .failure m => quote m
  | .ints xs => listText "," xs

def rename (key : String) (v : Value) : String × Value :=
  if key = "time" then
    ("ts", match v with
      | .instant t => .str t.toUtc.rfc3339
      | v => v)
  else if key = "level" then ("level", .str (LowerCase.lower v.text))
  else (key, v)

def member (key : String) (v : Value) : String :=
  let (k, w) := rename key v
  quote k ++ ":" ++ valueText w

mutual
/-- Whether an attribute is a group holding nothing but such groups. Groups drop these
members, and records drop them too. -/
def hollow : Attr → Bool
  | .group _ ms => allHollow ms
  | _ => false

def allHollow : List Attr → Bool
  | [] => true
  | a :: rest => hollow a && allHollow rest
end

/-- Text being written, and whether the next member is preceded by a comma. -/
structure Out where
  text : String
  comma : Bool

def Out.openObject (o : Out) (key : String) : Out :=
  { text := o.text ++ (if o.comma then "," else "") ++ quote key ++ ":\x7b", comma := false }

mutual
/-- Writes one attribute; the flag says whether it counts as written. A group whose
members write nothing takes back its text; when it had a key, the comma it took away
stays away, so the next member follows without one. A hollow group counts as written,
though it writes nothing. -/
def writeAttr : Attr → Out → Out × Bool
  | .empty, o => (o, false)
  | .field k v, o =>
    ({ text := o.text ++ (if o.comma then "," else "") ++ member k v, comma := true }, true)
  | .group k ms, o =>
    if allHollow ms then (o, true)
    else if k = "" then
      let (o', w) := writeMembers ms o
      (if w then o' else { o' with text := o.text }, w)
    else
      let (o', w) := writeMembers ms (o.openObject k)
      if w then ({ text := o'.text ++ "\x7d", comma := true }, true)
      else ({ text := o.text, comma := o'.comma }, false)

def writeMembers : List Attr → Out → Out × Bool
  | [], o => (o, false)
  | a :: rest, o =>
    let (o1, w1) := if hollow a then (o, false) else writeAttr a o
    let (o2, w2) := writeMembers rest o1
    (o2, w1 || w2)
end

/-- Writes attributes in order, hollow ones included; the flag says whether any counts
as written. -/
def writeAll (as : List Attr) (o : Out) : Out × Bool :=
  as.foldl (fun (acc : Out × Bool) a =>
    let (o', w) := writeAttr a acc.1
    (o', acc.2 || w)) (o, false)

/-- The writer's attributes written ahead of records, the groups not yet opened in
them, and how many groups they opened. Each step of attributes that are not all hollow
opens the waiting groups and writes its attributes after the text so far; when none of
them counts as written, the step leaves no trace. -/
def preformat (acc : String × List String × Nat) : Step → String × List String × Nat
  | .group g => (acc.1, acc.2.1 ++ [g], acc.2.2)
  | .attrs as =>
    let (text, waiting, opened) := acc
    if allHollow as then acc
    else
      let start : Out := { text, comma := text ≠ "" ∧ !text.endsWith "\x7b" }
      let (o, w) := writeAll as (waiting.foldl Out.openObject start)
      if w then (o.text, [], opened + waiting.length) else acc

def line (steps : List Step) (r : Record) : String :=
  let (pre, waiting, opened) := steps.foldl preformat ("", [], 0)
  let head := "\x7b" ++ ",".intercalate [member "time" (.instant r.time),
    member "level" (.str r.level.name), member "msg" (.str r.message)]
  let o : Out := if pre = "" then { text := head, comma := true }
    else { text := head ++ "," ++ pre, comma := !pre.endsWith "\x7b" }
  let attrs := r.attrs.filter (!hollow ·)
  let (o, opened) :=
    if attrs.isEmpty then (o, opened)
    else
      let (o', w) := writeAll attrs (waiting.foldl Out.openObject o)
      if w then (o', opened + waiting.length) else (o, opened)
  o.text ++ String.ofList (List.replicate (opened + 1) '\x7d') ++ "\n"

end KeyedComposite.Log.JsonLine
