import KeyedComposite.Numeric.FloatRead

/-! # Reading exact rationals

`RatioText.read?` reads the exact number a decimal or prefixed text denotes, with no
rounding: an optional sign; a significand in base 10, or after `0b`, `0o`, `0x` in base 2,
8, 16, with at most one point (a plain leading `0` stays decimal); underscores only
between digits or after the prefix; an optional exponent `e` (a power of ten) or `p` (a
power of two) with an optional sign and digits, whose value must fit a signed 64-bit
word. A zero significand is zero whatever the exponent; otherwise the powers of five and
of two that the point and the exponent contribute are bounded by `10^6` and `10^7`.

`RatioText.integer?` reads a base-10 integer: an optional sign and at least one digit.
-/
namespace KeyedComposite.RatioText

open FloatText (lowerAscii)

def digitIn (base : Nat) (c : Char) : Option Nat :=
  let d :=
    if '0' ≤ c ∧ c ≤ '9' then c.toNat - '0'.toNat
    else if 'a' ≤ lowerAscii c ∧ lowerAscii c ≤ 'z' then (lowerAscii c).toNat - 'a'.toNat + 10
    else 99
  if d < base then some d else none

/-- What the significand scan has seen: the value, the digit count, the digit count at the
point (if any), the last character class (`'0'` digit, `'_'` separator, `'.'` other), and
whether a separator stood in a wrong place. -/
structure Scan where
  value : Nat := 0
  count : Nat := 0
  point : Option Nat := none
  prev : Char := '.'
  badSeparator : Bool := false

def scanDigits (base : Nat) (separators : Bool) : List Char → Scan → Scan × List Char
  | [], acc => (acc, [])
  | c :: cs, acc =>
    if c = '.' ∧ acc.point.isNone then
      scanDigits base separators cs { acc with point := some acc.count, prev := '.' }
    else if c = '_' ∧ separators then
      scanDigits base separators cs
        { acc with badSeparator := acc.badSeparator || acc.prev != '0', prev := '_' }
    else match digitIn base c with
      | some d =>
        scanDigits base separators cs
          { acc with value := acc.value * base + d, count := acc.count + 1, prev := '0' }
      | none => (acc, c :: cs)

/-- A significand: its value, base, the number of digits after the point, and the rest. -/
structure Significand where
  value : Nat
  base : Nat
  fraction : Nat
  rest : List Char

/-- Reads the significand with base prefix, point and separators. -/
def significand (cs : List Char) : Option Significand :=
  let (base, start, body) : Nat × Scan × List Char := match cs with
    | '0' :: c :: r =>
      if lowerAscii c = 'b' then (2, { prev := '0' }, r)
      else if lowerAscii c = 'o' then (8, { prev := '0' }, r)
      else if lowerAscii c = 'x' then (16, { prev := '0' }, r)
      else (10, { count := 1, prev := '0' }, c :: r)
    | ['0'] => (10, { count := 1, prev := '0' }, [])
    | r => (10, {}, r)
  let (scan, rest) := scanDigits base true body start
  if scan.badSeparator || scan.prev == '_' then none
  else if scan.count = 0 then none
  else
    let fraction := match scan.point with
      | some p => scan.count - p
      | none => 0
    some { value := scan.value, base, fraction, rest }

def fitsWord (x : Int) : Bool := -Int.pow 2 63 ≤ x ∧ x < Int.pow 2 63

def exponent : List Char → Option (Int × Bool × List Char)
  | [] => some (0, false, [])
  | c :: r =>
    let mark := lowerAscii c
    if mark = 'e' ∨ mark = 'p' then
      let (sign, r) : Int × List Char := match r with
        | '+' :: r' => (1, r')
        | '-' :: r' => (-1, r')
        | r' => (1, r')
      let (scan, rest) := scanDigits 10 true r {}
      let x := sign * scan.value
      if scan.count = 0 ∨ !fitsWord x ∨ scan.badSeparator ∨ scan.prev == '_' ∨
          scan.point.isSome then none
      else some (x, mark = 'p', rest)
    else some (0, false, c :: r)

/-- The exact number a text denotes, if it is one. -/
def read? (text : String) : Option Rat :=
  let cs := text.toList
  let (negative, body) := match cs with
    | '+' :: r => (false, r)
    | '-' :: r => (true, r)
    | r => (false, r)
  match significand body with
  | none => none
  | some sig =>
    match exponent sig.rest with
    | none => none
    | some (x, binary, rest) =>
      if !rest.isEmpty then none
      else if sig.value = 0 then some 0
      else
        let d : Int := -(sig.fraction : Int)
        let (exp5, exp2) : Int × Int :=
          if sig.base = 10 then (d, d)
          else if sig.base = 2 then (0, d)
          else if sig.base = 8 then (0, 3 * d)
          else (0, 4 * d)
        let (exp5, exp2) := if binary then (exp5, exp2 + x) else (exp5 + x, exp2 + x)
        if exp5.natAbs > 1000000 ∨ exp2 < -10000000 ∨ exp2 > 10000000 then none
        else
          let num : Nat := sig.value * Nat.pow 5 exp5.toNat * Nat.pow 2 exp2.toNat
          let den : Nat := Nat.pow 5 (-exp5).toNat * Nat.pow 2 (-exp2).toNat
          some (mkRat (if negative then -(num : Int) else num) den)

def integer? (text : String) : Option Int :=
  let (negative, body) := match text.toList with
    | '+' :: r => (false, r)
    | '-' :: r => (true, r)
    | r => (false, r)
  if body.isEmpty ∨ !body.all (fun c => '0' ≤ c ∧ c ≤ '9') then none
  else
    let n := body.foldl (fun acc c => acc * 10 + (c.toNat - '0'.toNat)) 0
    some (if negative then -(n : Int) else n)

end KeyedComposite.RatioText
