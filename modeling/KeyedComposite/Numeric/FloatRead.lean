import KeyedComposite.Numeric.Binary64
import KeyedComposite.Numeric.NumberError

/-! # Reading binary64 values from text

The number syntax read here is: an optional sign, then either `inf`, `infinity` or `nan`
in any letter case (no sign before `nan`), or decimal digits with at most one point and an
optional exponent `e±ddd`, or `0x` hexadecimal digits with at most one point and a
mandatory binary exponent `p±ddd`. Underscores may stand between digits, and between the
base prefix and a digit. The value is the binary64 value nearest to the exact number the
text denotes; a finite text whose nearest value is infinite is out of range.
-/
namespace KeyedComposite.FloatText

/-- Why a text is not a binary64 value. -/
inductive ReadError where
  | malformed
  | range
  deriving DecidableEq, Repr

def lowerAscii (c : Char) : Char := if 'A' ≤ c ∧ c ≤ 'Z' then Char.ofNat (c.toNat + 32) else c

def digitValue (hex : Bool) (c : Char) : Option Nat :=
  if '0' ≤ c ∧ c ≤ '9' then some (c.toNat - '0'.toNat)
  else if hex ∧ 'a' ≤ lowerAscii c ∧ lowerAscii c ≤ 'f' then
    some ((lowerAscii c).toNat - 'a'.toNat + 10)
  else none

/-- The significand part read so far: its integer value, how many digits follow the point,
whether a point and an underscore were seen, and whether any digit was. -/
structure Significand where
  value : Nat := 0
  fraction : Nat := 0
  dotted : Bool := false
  underscores : Bool := false
  sawDigits : Bool := false

def significand (hex : Bool) : List Char → Significand → Significand × List Char
  | [], acc => (acc, [])
  | c :: cs, acc =>
    if c = '_' then significand hex cs { acc with underscores := true }
    else if c = '.' then
      if acc.dotted then (acc, c :: cs) else significand hex cs { acc with dotted := true }
    else match digitValue hex c with
      | some d =>
        significand hex cs
          { acc with value := acc.value * (if hex then 16 else 10) + d, sawDigits := true,
                     fraction := if acc.dotted then acc.fraction + 1 else acc.fraction }
      | none => (acc, c :: cs)

def exponentDigits : List Char → Nat → Bool → Nat × Bool × List Char
  | [], e, u => (e, u, [])
  | c :: cs, e, u =>
    if c = '_' then exponentDigits cs e true
    else if '0' ≤ c ∧ c ≤ '9' then
      exponentDigits cs (if e < 10000 then e * 10 + (c.toNat - '0'.toNat) else e) u
    else (e, u, c :: cs)

/-- Whether every underscore of a number text stands between two digits, or between the
base prefix and a digit. -/
def underscoresFit (s : List Char) : Bool :=
  let body := match s with
    | '+' :: r => r
    | '-' :: r => r
    | r => r
  let (hex, saw, rest) := match body with
    | '0' :: b :: r =>
      if lowerAscii b = 'b' ∨ lowerAscii b = 'o' ∨ lowerAscii b = 'x' then
        (lowerAscii b == 'x', '0', r)
      else (false, '^', body)
    | _ => (false, '^', body)
  let step : Option Char → Char → Option Char := fun st c =>
    match st with
    | none => none
    | some saw =>
      if ('0' ≤ c ∧ c ≤ '9') ∨ (hex ∧ 'a' ≤ lowerAscii c ∧ lowerAscii c ≤ 'f') then some '0'
      else if c = '_' then (if saw = '0' then some '_' else none)
      else if saw = '_' then none
      else some '!'
  match rest.foldl step (some saw) with
  | some last => last != '_'
  | none => false

def commonPrefix : List Char → List Char → Nat
  | c :: cs, w :: ws => if lowerAscii c = w then commonPrefix cs ws + 1 else 0
  | _, _ => 0

def specialValue (s : List Char) : Option Float :=
  let (negative, signed, body) := match s with
    | '+' :: r => (false, true, r)
    | '-' :: r => (true, true, r)
    | r => (false, false, r)
  let n := commonPrefix body "infinity".toList
  let inf := Float.ofBits (if negative then 0xFFF0000000000000 else 0x7FF0000000000000)
  if (n = 3 ∧ body.length = 3) ∨ (n = 8 ∧ body.length = 8) then some inf
  else if !signed ∧ commonPrefix body "nan".toList = 3 ∧ body.length = 3 then
    some (Float.ofBits 0x7FF8000000000001)
  else none

def decimalValue (negative : Bool) (d : Nat) (x : Int) : Option Float :=
  if d = 0 then some (Binary64.nearest negative 0 0) else
  let width : Int := (Nat.toDigits 10 d).length + x
  if width ≤ -325 then some (Binary64.nearest negative 0 0)
  else if width ≥ 310 then none
  else
    let bits :=
      if x ≥ 0 then Binary64.nearestBits (d * Nat.pow 10 x.toNat) 0
      else Binary64.ratioBits d (Nat.pow 10 (-x).toNat)
    if bits = Binary64.infinityBits then none
    else some (Float.ofBits (if negative then bits ||| Binary64.signBit else bits))

def binaryValue (negative : Bool) (h : Nat) (x : Int) : Option Float :=
  let bits := Binary64.nearestBits h x
  if bits = Binary64.infinityBits then none
  else some (Float.ofBits (if negative then bits ||| Binary64.signBit else bits))

/-- Reads a whole text as a binary64 value. -/
def read (text : String) : Except ReadError Float :=
  let s := text.toList
  match specialValue s with
  | some v => .ok v
  | none =>
    let (negative, body) := match s with
      | '+' :: r => (false, r)
      | '-' :: r => (true, r)
      | r => (false, r)
    let (hex, digits) := match body with
      | '0' :: x :: r@(_ :: _) => if lowerAscii x = 'x' then (true, r) else (false, body)
      | _ => (false, body)
    let (sig, rest) := significand hex digits {}
    if !sig.sawDigits then .error .malformed else
    let expMark := if hex then 'p' else 'e'
    let parsed : Option (Int × Bool × List Char) :=
      match rest with
      | c :: r =>
        if lowerAscii c = expMark then
          let (sign, r) := match r with
            | '+' :: r' => ((1 : Int), r')
            | '-' :: r' => ((-1 : Int), r')
            | r' => ((1 : Int), r')
          match r with
          | d :: _ =>
            if '0' ≤ d ∧ d ≤ '9' then
              let (e, u, r') := exponentDigits r 0 false
              some (sign * e, u, r')
            else none
          | [] => none
        else if hex then none else some (0, false, rest)
      | [] => if hex then none else some (0, false, [])
    match parsed with
    | none => .error .malformed
    | some (e, u, leftover) =>
      if !leftover.isEmpty then .error .malformed
      else if (sig.underscores || u) && !underscoresFit s then .error .malformed
      else
        let value :=
          if hex then binaryValue negative sig.value (e - 4 * (sig.fraction : Int))
          else decimalValue negative sig.value (e - (sig.fraction : Int))
        match value with
        | some v => .ok v
        | none => .error .range

def parse (text : String) : Except NumberError Float :=
  (read text).mapError fun e =>
    { reader := .binary64, text := text.toUTF8.toList,
      fault := match e with
        | .malformed => .malformed
        | .range => .outOfRange }

end KeyedComposite.FloatText
