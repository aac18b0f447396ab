/-! # TOML documents

A TOML document is a sequence of expressions: key/value pairs, table headers `[a.b]` and
array-table headers `[[a.b]]`, each key a path of simple keys. Values keep what the
reader saw: strings their decoded text, integers, floats and date-times their token
text (numbers are read only when a value is stored), booleans their truth value, arrays
their items and inline tables their key/value pairs.
-/
namespace KeyedComposite.Toml

/-- The four forms of date and time. -/
inductive TimeForm where
  | offsetDateTime
  | localDateTime
  | localDate
  | localTime
  deriving DecidableEq, Repr

/-- A TOML value as read. -/
inductive Value where
  | string (s : String)
  | integer (text : String)
  | float (text : String)
  | bool (b : Bool)
  | dateTime (form : TimeForm) (text : String)
  | array (items : List Value)
  | inlineTable (pairs : List (List String × Value))
  deriving Repr

/-- The text a value hands to a reader of text: a string's content, a number's or a
date's token, `true` or `false`, and nothing for arrays and tables. -/
def Value.data : Value → String
  | .string s => s
  | .integer t => t
  | .float t => t
  | .bool b => if b then "true" else "false"
  | .dateTime _ t => t
  | .array _ => ""
  | .inlineTable _ => ""

/-- A top-level expression. -/
inductive Expression where
  | keyValue (key : List String) (value : Value)
  | table (key : List String)
  | arrayTable (key : List String)
  deriving Repr

end KeyedComposite.Toml
