import KeyedComposite.Time.Span
import KeyedComposite.Time.Instant
import KeyedComposite.Numeric.Shortest
import KeyedComposite.Log.Level

/-! # Attributes of log records

An attribute is a key with a value, a group of attributes under a key (an empty key
merges the members into the enclosing level), or the empty attribute, which every writer
skips. A value is text, a signed or unsigned integer, a binary64 number, a truth value, a
span, an instant, the message of a failure, or a list of integers.

`Value.text` is a value's plain text: numbers in their shortest general form, spans and
instants in their long forms, lists as `[1 2 3]`.

A record is what one log call hands to a writer: its time, level, message and attributes.
A writer is built up by steps, each adding attributes or opening a group.
-/
namespace KeyedComposite.Log

/-- The value of an attribute. -/
inductive Value where
  | str (s : String)
  | int (i : Int)
  | nat (n : Nat)
  | float (f : Float)
  | bool (b : Bool)
  | span (s : Span)
  | instant (t : Instant)
  | failure (message : String)
  | ints (xs : List Int)

/-- A log attribute. -/
inductive Attr where
  | empty
  | field (key : String) (value : Value)
  | group (key : String) (members : List Attr)

def listText (sep : String) (xs : List Int) : String := "[" ++ sep.intercalate (xs.map decimal) ++ "]"

def Value.text : Value → String
  | .str s => s
  | .int i => decimal i
  | .nat n => decimal n
  | .float f => FloatText.general f
  | .bool b => if b then "true" else "false"
  | .span s => s.text
  | .instant t => t.describe
  | .failure m => m
  | .ints xs => listText " " xs

/-- One log call: when, how severe, what, and the attributes. -/
structure Record where
  time : Instant
  level : Level
  message : String
  attrs : List Attr

/-- Something added to a writer: attributes, or a group that later fields go under. -/
inductive Step where
  | attrs (as : List Attr)
  | group (name : String)

end KeyedComposite.Log
