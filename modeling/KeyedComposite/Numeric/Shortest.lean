import KeyedComposite.Numeric.Binary64

/-! # Shortest decimal text of a binary64 value

`Digits.shortest` finds, for a finite positive value, the fewest significant decimal
digits that read back as the same value, and of those the nearest, a tie going to the
even last digit. The reals that read back as `m · 2^e` form an interval around it,
closed when `m` is even; on the grid of `n` significant digits only the two grid points
next to the value can lie in it, so the grids `n = 1, 2, …, 17` are tried in turn with
exact `Nat` comparisons.

The text forms differ only in where the decimal point goes: `general` writes positional
text for decimal exponents in `[-4, 6)` and exponent text (`1e+06`, `1.5e-07`) otherwise;
`positional` always writes every digit in place; `exponential` always uses the exponent.
-/
namespace KeyedComposite

/-- Significant decimal digits `d₁ … dₙ` (the first nonzero, the last nonzero) and the
place of the decimal point: the value is `0.d₁…dₙ × 10^point`. Zero has no digits. -/
structure Digits where
  digits : List Nat
  point : Int
  deriving DecidableEq, Repr

namespace Digits

def log10Floor (num den : Nat) : Int :=
  if num ≥ den then ((Nat.toDigits 10 (num / den)).length : Int) - 1
  else
    let j := (Nat.toDigits 10 (den / num)).length - 1
    if num * Nat.pow 10 j ≥ den then -(j : Int) else -((j : Int) + 1)

def compareScaled (c : Nat) (k : Int) (x : Nat) (s : Int) : Ordering :=
  compare (c * Nat.pow 10 k.toNat * Nat.pow 2 (-s).toNat)
    (x * Nat.pow 2 s.toNat * Nat.pow 10 (-k).toNat)

def ofScaled (c : Nat) (k : Int) : Digits :=
  let ds := (Nat.toDigits 10 c).map (fun ch => ch.toNat - '0'.toNat)
  let trimmed := (ds.reverse.dropWhile (· = 0)).reverse
  { digits := trimmed, point := (ds.length : Int) + k }

/-- The readback interval of `m · 2^e`, in units of `2^(e-2)`: its ends, and whether they
belong to it. Below a power of two the gap to the lower neighbour is half as wide. -/
structure Window where
  low : Nat
  high : Nat
  closed : Bool

def window (m : Nat) (narrowBelow : Bool) : Window :=
  { low := 4 * m - (if narrowBelow then 1 else 2), high := 4 * m + 2, closed := m % 2 = 0 }

def Window.holds (w : Window) (e : Int) (c : Nat) (k : Int) : Bool :=
  let lo := compareScaled c k w.low (e - 2)
  let hi := compareScaled c k w.high (e - 2)
  if w.closed then lo != .lt && hi != .gt else lo == .gt && hi == .lt

/-- The shortest, then nearest, grid point for `m · 2^e`, trying `n` significant digits
for `n` from `1` up to `n + fuel`. -/
def search (m : Nat) (e : Int) (w : Window) (top : Int) : Nat → Nat → Option Digits
  | _, 0 => none
  | n, fuel + 1 =>
    let k := top - (n : Int) + 1
    let lo := (m * Nat.pow 2 e.toNat * Nat.pow 10 (-k).toNat) /
      (Nat.pow 2 (-e).toNat * Nat.pow 10 k.toNat)
    let hi := lo + 1
    match w.holds e lo k, w.holds e hi k with
    | true, true =>
      match compareScaled (2 * lo + 1) k (2 * m) e with
      | .lt => some (ofScaled hi k)
      | .gt => some (ofScaled lo k)
      | .eq => some (ofScaled (if lo % 2 = 0 then lo else hi) k)
    | true, false => some (ofScaled lo k)
    | false, true => some (ofScaled hi k)
    | false, false => search m e w top (n + 1) fuel

def shortest (f : Float) : Digits :=
  let m := Binary64.significand f
  let e := Binary64.exponent f
  if m = 0 then { digits := [], point := 0 } else
  let narrow := Binary64.fractionField f = 0 ∧ Binary64.biasedExponent f > 1
  let top := log10Floor (m * Nat.pow 2 e.toNat) (Nat.pow 2 (-e).toNat)
  (search m e (window m narrow) top 1 17).getD (ofScaled m 0)

def digitChar (d : Nat) : Char := Char.ofNat (d + '0'.toNat)

def digitAt (d : Digits) (i : Int) : Char :=
  if i < 0 then '0' else (d.digits[i.toNat]?.map digitChar).getD '0'

def positionalWith (d : Digits) (prec : Nat) : String :=
  let whole :=
    if d.point > 0 then String.ofList ((List.range d.point.toNat).map (fun (i : Nat) => d.digitAt i))
    else "0"
  let frac := String.ofList ((List.range prec).map (fun (i : Nat) => d.digitAt (d.point + i)))
  if prec = 0 then whole else whole ++ "." ++ frac

def exponentialWith (d : Digits) (prec : Nat) : String :=
  let first := if d.digits = [] then '0' else d.digitAt 0
  let frac := String.ofList ((List.range prec).map (fun (i : Nat) => d.digitAt ((i : Int) + 1)))
  let x : Int := if d.digits = [] then 0 else d.point - 1
  let mark := if x < 0 then "-" else "+"
  String.singleton first ++ (if prec = 0 then "" else "." ++ frac) ++ "e" ++ mark ++
    padded 2 x.natAbs

def positional (d : Digits) : String := d.positionalWith (d.digits.length - d.point).toNat

def exponential (d : Digits) : String := d.exponentialWith (d.digits.length - 1)

def general (d : Digits) : String :=
  let x := d.point - 1
  if x < -4 ∨ x ≥ 6 then d.exponential else d.positional

end Digits

namespace FloatText

def special (f : Float) : Option String :=
  match Binary64.kind f with
  | .nan => some "NaN"
  | .infinite => some (if Binary64.isNegative f then "-Inf" else "+Inf")
  | _ => none

def signed (f : Float) (body : String) : String :=
  if Binary64.isNegative f then "-" ++ body else body

def general (f : Float) : String :=
  (special f).getD (signed f (Digits.shortest f).general)

def positional (f : Float) : String :=
  (special f).getD (signed f (Digits.shortest f).positional)

/-- The form of a number in a JSON document: positional for magnitudes in `[1e-6, 1e21)`
(and zero), else exponent text with a one-digit negative exponent left unpadded. -/
def json (f : Float) : String :=
  let d := Digits.shortest f
  let x := d.point - 1
  let big := d.digits ≠ [] ∧ (x < -6 ∨ x ≥ 21)
  if big then
    let cs := d.exponential.toList
    let n := cs.length
    let short := n ≥ 4 ∧ cs[n - 4]? = some 'e' ∧ cs[n - 3]? = some '-' ∧ cs[n - 2]? = some '0'
    signed f (String.ofList (if short then cs.take (n - 2) ++ cs.drop (n - 1) else cs))
  else signed f d.positional

end FloatText

end KeyedComposite
