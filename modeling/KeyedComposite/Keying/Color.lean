import KeyedComposite.Numeric.Shortest
import KeyedComposite.Numeric.Fixed
import KeyedComposite.Numeric.NumberError
import KeyedComposite.Text.Blank

/-! # Key colours and parameter values

A key colour is written `#rrggbb`: after trimming blanks and one leading `#`, exactly six
bytes must remain, read as three two-digit hexadecimal bytes. The filter takes it as three
fractions `byte / 255` with six places, separated by spaces.

A parameter value is written with every shortest digit in place and always with a
fractional part: `1.0`, `0.35`, `-0.0`; `NaN`, `+Inf` and `-Inf` stand as they are.
-/
namespace KeyedComposite.Keying

/-- Why a text is not a key colour; the text is kept as given. -/
inductive ColorError where
  | badLength (text : String)
  | badByte (text : String) (cause : NumberError)
  deriving DecidableEq, Repr

def ColorError.message : ColorError → String
  | .badLength t => "invalid key color " ++ Quoted.quote t ++ ": want #rrggbb"
  | .badByte t e => "invalid key color " ++ Quoted.quote t ++ ": " ++ e.message

def hexByteValue (b : UInt8) : Option Nat :=
  let n := b.toNat
  if 48 ≤ n ∧ n ≤ 57 then some (n - 48)
  else if 97 ≤ n ∧ n ≤ 102 then some (n - 87)
  else if 65 ≤ n ∧ n ≤ 70 then some (n - 55)
  else none

def readByte (pair : List UInt8) : Except NumberError Nat :=
  match pair with
  | [a, b] =>
    match hexByteValue a, hexByteValue b with
    | some x, some y => .ok (16 * x + y)
    | _, _ => .error { reader := .unsigned, text := pair, fault := .malformed }
  | _ => .error { reader := .unsigned, text := pair, fault := .malformed }

def frei0rColor (text : String) : Except ColorError String :=
  let trimmed := Blank.trim text
  let h := if trimmed.startsWith "#" then String.ofList (trimmed.toList.drop 1) else trimmed
  let bytes := h.toUTF8.toList
  if bytes.length ≠ 6 then .error (.badLength text) else
  let part (i : Nat) : Except ColorError Nat :=
    match readByte ((bytes.drop (2 * i)).take 2) with
    | .ok v => .ok v
    | .error e => .error (.badByte text e)
  do
    let r ← part 0
    let g ← part 1
    let b ← part 2
    let frac (v : Nat) := fixed 6 (Binary64.intQuotient v 255)
    return frac r ++ " " ++ frac g ++ " " ++ frac b

def valueText (f : Float) : String :=
  let s := FloatText.positional f
  if s.toList.any (fun c => c = '.' ∨ c = 'e' ∨ c = 'E' ∨ c = 'n' ∨ c = 'N') then s
  else s ++ ".0"

end KeyedComposite.Keying
