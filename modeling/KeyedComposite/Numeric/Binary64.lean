import KeyedComposite.Numeric.Word

/-! # Binary64 values as significand and exponent

A finite binary64 value is `± m · 2^e` with an integer significand `m`. This module reads
`m` and `e` off the encoding and, the other way, builds the value nearest to `m · 2^e`,
a tie going to the even significand and a value past the largest finite one becoming an
infinity. Everything is exact `Nat` arithmetic on the encoding; no floating-point
operation is involved.

`ratioBits a b` is the value nearest to `a / b`. `quotient a b` is the conversion of an
exact rational that first cuts the quotient to 54 bits, rounds, and reports whether no
bit was lost; it agrees with `ratioBits` except that its flag is read at the 54-bit stage.
-/
namespace KeyedComposite.Binary64

def infinityBits : UInt64 := 0x7FF0000000000000

def signBit : UInt64 := 0x8000000000000000

def isNegative (f : Float) : Bool := f.toBits >>> 63 == 1

def biasedExponent (f : Float) : Nat := ((f.toBits >>> 52) &&& 0x7FF).toNat

def fractionField (f : Float) : Nat := (f.toBits &&& 0xFFFFFFFFFFFFF).toNat

/-- What an encoding stands for. -/
inductive Kind where
  | zero
  | finite
  | infinite
  | nan
  deriving DecidableEq, Repr

def kind (f : Float) : Kind :=
  if biasedExponent f = 2047 then (if fractionField f = 0 then .infinite else .nan)
  else if biasedExponent f = 0 ∧ fractionField f = 0 then .zero else .finite

def significand (f : Float) : Nat :=
  if biasedExponent f = 0 then fractionField f else fractionField f + Nat.pow 2 52

def exponent (f : Float) : Int :=
  if biasedExponent f = 0 then -1074 else (biasedExponent f : Int) - 1075

/-- `m · 2^s` rounded to an integer, a tie going to the even neighbour. -/
def roundShift (m : Nat) : Int → Nat
  | .ofNat k => m <<< k
  | .negSucc j =>
    let q := m >>> (j + 1)
    let r := m % Nat.pow 2 (j + 1)
    if r > Nat.pow 2 j ∨ (r = Nat.pow 2 j ∧ q % 2 = 1) then q + 1 else q

/-- The encoding of the binary64 value nearest to `m · 2^e` (ties to the even
significand; beyond the finite range, infinity). -/
def nearestBits (m : Nat) (e : Int) : UInt64 :=
  if m = 0 then 0 else
  let top : Int := (bitLength m : Int) - 1 + e
  if top > 1024 then infinityBits
  else if top < -1080 then 0
  else if top ≥ -1022 then
    let q := roundShift m (e - (top - 52))
    let carried := q = Nat.pow 2 53
    let q := if carried then Nat.pow 2 52 else q
    let top := if carried then top + 1 else top
    if top > 1023 then infinityBits
    else UInt64.ofNat (((top + 1023).toNat <<< 52) + (q - Nat.pow 2 52))
  else
    UInt64.ofNat (roundShift m (e + 1074))

def nearest (negative : Bool) (m : Nat) (e : Int) : Float :=
  let b := nearestBits m e
  Float.ofBits (if negative then b ||| signBit else b)

/-- The encoding of the value nearest to the positive ratio `a / b`: the quotient is taken
to at least 55 bits and a remainder is kept as one sticky bit below them. -/
def ratioBits (a b : Nat) : UInt64 :=
  let k := (bitLength b + 56) - bitLength a
  let num := a <<< k
  let q := num / b
  nearestBits (2 * q + (if num % b = 0 then 0 else 1)) (-(k : Int) - 1)

def ofRatio (negative : Bool) (a b : Nat) : Float :=
  let bits := ratioBits a b
  Float.ofBits (if negative then bits ||| signBit else bits)

def ofInt (i : Int) : Float := nearest (i < 0) i.natAbs 0

def divide (x y : Float) : Float :=
  let mx := significand x
  let my := significand y
  let shift := exponent x - exponent y
  let a := if shift ≥ 0 then mx <<< shift.toNat else mx
  let b := if shift < 0 then my <<< (-shift).toNat else my
  let bits := if mx = 0 then 0 else ratioBits a b
  Float.ofBits (if isNegative x != isNegative y then bits ||| signBit else bits)

def intQuotient (num den : Int) : Float := divide (ofInt num) (ofInt den)

/-- An exact quotient `a / b` (with `b > 0`) cut to binary64: the quotient is taken to 54
or 55 bits, narrowed for the subnormal range, rounded half to even, and placed. The flag
says that no bit was lost in the rounding and the result is finite. -/
def quotient (a b : Nat) : Float × Bool :=
  let alen := bitLength a
  if alen = 0 then (0, true) else
  let exp₀ : Int := (alen : Int) - (bitLength b : Int)
  let shift : Int := 54 - exp₀
  let a₂ := if shift > 0 then a <<< shift.toNat else a
  let b₂ := if shift < 0 then b <<< (-shift).toNat else b
  let q := a₂ / b₂
  let rem₀ := a₂ % b₂ ≠ 0
  let wide := q >>> 54 = 1
  let mant₁ := if wide then q >>> 1 else q
  let exp₁ := if wide then exp₀ + 1 else exp₀
  let rem₁ := rem₀ || (wide && q % 2 = 1)
  let subnormal := -1074 ≤ exp₁ ∧ exp₁ ≤ -1022
  let sh := (-1021 - exp₁).toNat
  let mant₂ := if subnormal then mant₁ >>> sh else mant₁
  let exp₂ := if subnormal then (-1021 : Int) else exp₁
  let rem₂ := rem₁ || (subnormal && mant₁ % Nat.pow 2 sh ≠ 0)
  let exact := !rem₂ && mant₂ % 2 = 0
  let up := mant₂ % 2 = 1 ∧ (rem₂ ∨ (mant₂ >>> 1) % 2 = 1)
  let mant₃ := if up then mant₂ + 1 else mant₂
  let carried := mant₃ ≥ Nat.pow 2 54
  let mant₄ := if carried then mant₃ >>> 1 else mant₃
  let exp₃ := if carried then exp₂ + 1 else exp₂
  let bits := nearestBits (mant₄ >>> 1) (exp₃ - 53)
  (Float.ofBits bits, exact && bits != infinityBits)

end KeyedComposite.Binary64
