import KeyedComposite.Toml.Read
import KeyedComposite.Numeric.NumberError
import KeyedComposite.Numeric.FloatRead

/-! # Reading TOML numbers

Number tokens are read when a value is stored. An integer token is decimal, or
hexadecimal, octal or binary after `0x`, `0o`, `0b`; underscores must stand between
digits; a decimal integer has no leading zero; the value must fit in a signed 64-bit
word. A float token has at most one point, with a digit on each side, no leading zero in
its integer part and underscores only between digits; `inf` and `nan` may carry a sign.

Refusals carry the reader's message.
-/
namespace KeyedComposite.Toml

/-- Why a stored value was refused: a message, or a crash of the reader. -/
inductive StoreFault where
  | refused (message : String)
  | crashed (message : String)
  deriving DecidableEq, Repr

/-- Reads signed 64-bit text in a base, without prefix or underscores: an optional sign
and at least one digit. A magnitude beyond 64 bits is refused as soon as it is reached. -/
def readSigned (s : String) (base : Nat) : Except NumberError Int :=
  let err (fault : NumberFault) : NumberError := { reader := .signed, text := s.toUTF8.toList, fault }
  let cs := s.toList
  let (negative, body) := match cs with
    | '+' :: r => (false, r)
    | '-' :: r => (true, r)
    | r => (false, r)
  let digit (c : Char) : Option Nat :=
    let v := if isDigit c then c.toNat - 48
      else if 'a' ≤ c ∧ c ≤ 'z' then c.toNat - 87
      else if 'A' ≤ c ∧ c ≤ 'Z' then c.toNat - 55 else base
    if v < base then some v else none
  let step (acc : Except NumberError Nat) (c : Char) : Except NumberError Nat := do
    let n ← acc
    match digit c with
    | none => throw (err .malformed)
    | some d =>
      let m := n * base + d
      if m ≥ Nat.pow 2 64 then throw (err .outOfRange) else pure m
  if body.isEmpty then .error (err .malformed)
  else do
    let n ← body.foldl step (.ok 0)
    if negative then
      if n > Nat.pow 2 63 then throw (err .outOfRange) else pure (-(n : Int))
    else if n ≥ Nat.pow 2 63 then throw (err .outOfRange) else pure n

def integerDigits (b : Chars) : Except StoreFault Chars :=
  let start := match b with
    | '+' :: _ | '-' :: _ => 1
    | _ => 0
  if b.length = start then .ok b
  else if b[start]? = some '_' then .error (.refused "number cannot start with underscore")
  else if b.getLast? = some '_' then .error (.refused "number cannot end with underscore")
  else
    let rec go : Chars → Bool → Chars → Except StoreFault Chars
      | [], _, acc => .ok acc.reverse
      | '_' :: r, before, acc =>
        if !before then .error (.refused "number must have at least one digit between underscores")
        else go r false acc
      | c :: r, _, acc => go r true (c :: acc)
    go b false []

/-- The value of an integer token. -/
def readInteger (text : String) : Except StoreFault Int :=
  let b := text.toList
  let based (base : Nat) (name : String) : Except StoreFault Int := do
    let cleaned ← integerDigits (b.drop 2)
    match readSigned (String.ofList cleaned) base with
    | .ok v => pure v
    | .error e => throw (.refused ("couldn't parse " ++ name ++ " number: " ++ e.message))
  match b with
  | '0' :: 'x' :: _ :: _ => based 16 "hexadecimal"
  | '0' :: 'o' :: _ :: _ => based 8 "octal"
  | '0' :: 'b' :: _ :: _ => based 2 "binary"
  | _ => do
    let cleaned ← integerDigits b
    let start := match cleaned with
      | '+' :: _ | '-' :: _ => 1
      | _ => 0
    if cleaned.length > start + 1 ∧ cleaned[start]? = some '0' then
      throw (.refused "leading zero not allowed on decimal number")
    match readSigned (String.ofList cleaned) 10 with
    | .ok v => pure v
    | .error e => throw (.refused ("couldn't parse decimal number: " ++ e.message))

/-- Checks the underscores of a float's text and drops them. -/
def floatDigits (b : Chars) : Except StoreFault Chars :=
  if b.head? = some '_' then .error (.refused "number cannot start with underscore")
  else if b.getLast? = some '_' then .error (.refused "number cannot end with underscore")
  else if !b.contains '_' then .ok b
  else
    let rec go : Chars → Option Char → Bool → Chars → Except StoreFault Chars
      | [], _, _, acc => .ok acc.reverse
      | c :: r, prev, before, acc =>
        if c = '_' then
          if !before then .error (.refused "number must have at least one digit between underscores")
          else if r.head? = some 'e' ∨ r.head? = some 'E' then
            .error (.refused "cannot have underscore before exponent")
          else go r (some c) false acc
        else if c = '+' ∨ c = '-' then go r (some c) false (c :: acc)
        else if c = 'e' ∨ c = 'E' then
          if r.head? = some '_' then .error (.refused "cannot have underscore after exponent")
          else go r (some c) before (c :: acc)
        else if c = '.' then
          if r.head? = some '_' then .error (.refused "cannot have underscore after decimal point")
          else if prev = some '_' then .error (.refused "cannot have underscore before decimal point")
          else go r (some c) before (c :: acc)
        else go r (some c) true (c :: acc)
    go b none false []

def pointsValid : Option Char → Bool → Chars → Except StoreFault Unit
  | _, _, [] => .ok ()
  | prev, seen, '.' :: r =>
    if seen then .error (.refused "float can have at most one decimal point")
    else if !((prev.map isDigit).getD false) then
      .error (.refused "float decimal point must be preceded by a digit")
    else if !((r.head?.map isDigit).getD false) then
      .error (.refused "float decimal point must be followed by a digit")
    else pointsValid (some '.') true r
  | _, seen, c :: r => pointsValid (some c) seen r

/-- The value of a float token (or of an integer token stored as a float). -/
def readFloat (text : String) : Except StoreFault Float :=
  let b := text.toList
  if b = ['+', 'n', 'a', 'n'] ∨ b = ['-', 'n', 'a', 'n'] then
    .ok (Float.ofBits 0x7FF8000000000001)
  else do
    let cleaned ← floatDigits b
    if cleaned.head? = some '.' then throw (.refused "float cannot start with a dot")
    if cleaned.getLast? = some '.' then throw (.refused "float cannot end with a dot")
    pointsValid none false cleaned
    let rest := match cleaned with
      | '+' :: r | '-' :: r => r
      | r => r
    match rest with
    | '0' :: d :: _ =>
      if isDigit d then throw (.refused "float integer part cannot have leading zeroes")
    | _ => pure ()
    let s := String.ofList cleaned
    match FloatText.read s with
    | .ok f => pure f
    | .error e =>
      let fault := match e with
        | .malformed => NumberFault.malformed
        | .range => .outOfRange
      throw (.refused ("unable to parse float: " ++
        ({ reader := .binary64, text := s.toUTF8.toList, fault } : NumberError).message))

end KeyedComposite.Toml
