import KeyedComposite.Numeric.Shortest

/-! # Writing TOML documents

A document written here is a sequence of tables of plain key/value pairs, a blank line
between two tables. Strings are written as literal strings `'…'` unless they hold a
single quote, a line break or another control character besides the tab; those are
written as basic strings `"…"` with escapes. Integers are written in decimal. Floats are
written with every shortest digit in place and no exponent, an integral one with `.0`;
`nan`, `inf` and `-inf` stand for the values that are not finite.
-/
namespace KeyedComposite.Toml

/-- A value of a pair. -/
inductive Plain where
  | text (s : String)
  | bool (b : Bool)
  | integer (i : Int)
  | float (f : Float)

def needsEscapes (s : String) : Bool :=
  s.toList.any fun c =>
    c = '\'' ∨ c = '\r' ∨ c = '\n' ∨ (c.toNat < 0x20 ∧ c ≠ '\t') ∨ c.toNat = 0x7F

def upperHex (n : Nat) : Char := "0123456789ABCDEF".toList.getD n '0'

def escapeChar (c : Char) : List Char :=
  match c with
  | '"' => ['\\', '"']
  | '\\' => ['\\', '\\']
  | '\n' => ['\\', 'n']
  | '\r' => ['\\', 'r']
  | '\t' => ['\\', 't']
  | c =>
    if c.toNat = 8 then ['\\', 'b']
    else if c.toNat = 12 then ['\\', 'f']
    else if c.toNat < 0x20 ∨ c.toNat = 0x7F then
      ['\\', 'u', '0', '0', upperHex (c.toNat / 16), upperHex (c.toNat % 16)]
    else [c]

def stringText (s : String) : String :=
  if needsEscapes s then String.ofList ('"' :: s.toList.flatMap escapeChar ++ ['"'])
  else "'" ++ s ++ "'"

def floatText (f : Float) : String :=
  if f.isNaN then "nan"
  else if f.isInf then (if f > 0 then "inf" else "-inf")
  else
    let s := FloatText.positional f
    if s.contains '.' then s else s ++ ".0"

def Plain.render : Plain → String
  | .text s => stringText s
  | .bool b => if b then "true" else "false"
  | .integer i => toString i
  | .float f => floatText f

/-- A table of a document: its name and its pairs, in order. -/
structure Table where
  name : String
  pairs : List (String × Plain)

def Table.text (t : Table) : String :=
  "[" ++ t.name ++ "]\n" ++ String.join (t.pairs.map fun (k, v) => k ++ " = " ++ v.render ++ "\n")

def writeTables (tables : List Table) : String := "\n".intercalate (tables.map Table.text)

end KeyedComposite.Toml
