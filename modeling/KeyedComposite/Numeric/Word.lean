/-! # Signed words and decimal text

Frame arithmetic happens in signed 64-bit words: a product that leaves the range wraps
around, and a quotient is cut toward zero. Words are modelled as integers kept in
`[-2^63, 2^63)` by `wrap64`, so that every law of `Int` is at hand.

Decimal text of an integer is its digits after an optional minus sign; `padded w n` fills
the digits with zeros up to a width of `w` characters, the sign counting toward the width.
-/
namespace KeyedComposite

def wrap64 (x : Int) : Int := Int.bmod x (Nat.pow 2 64)

def IsWord (x : Int) : Prop := -Int.pow 2 63 ≤ x ∧ x < Int.pow 2 63

instance (x : Int) : Decidable (IsWord x) := by unfold IsWord; infer_instance

def mul64 (a b : Int) : Int := wrap64 (a * b)

/-- Word division, cut toward zero (the quotient of a word by zero is zero). -/
def quot64 (a b : Int) : Int := wrap64 (Int.tdiv a b)

def rem64 (a b : Int) : Int := Int.tmod a b

/-- The decimal digits of `n < 10^(2^k)`, with leading zeros up to `2^k` digits. Above
sixteen digits the block is split in two halves at `10^(2^(k-1))`, so that long numbers
are written by a few large divisions instead of one division per digit. -/
def paddedBlock : Nat → Nat → List Char
  | k + 5, n =>
    let unit := Nat.pow 10 (Nat.pow 2 (k + 4))
    paddedBlock (k + 4) (n / unit) ++ paddedBlock (k + 4) (n % unit)
  | k, n =>
    let ds := Nat.toDigits 10 n
    List.replicate (Nat.pow 2 k - ds.length) '0' ++ ds

def shortBlock : Nat → Nat → List Char
  | k + 5, n =>
    let unit := Nat.pow 10 (Nat.pow 2 (k + 4))
    if n < unit then shortBlock (k + 4) n
    else shortBlock (k + 4) (n / unit) ++ paddedBlock (k + 4) (n % unit)
  | _, n => Nat.toDigits 10 n

/-- Decimal digits of a natural number. Since `n < 2^(2^k) ≤ 10^(2^k)` for the `k` taken
here, `shortBlock` applies. -/
def natDigits (n : Nat) : String :=
  String.ofList (shortBlock (Nat.log2 (Nat.log2 n + 1) + 1) n)

def decimal (i : Int) : String :=
  if i < 0 then "-" ++ natDigits i.natAbs else natDigits i.natAbs

def padLeft (w : Nat) (c : Char) (s : String) : String :=
  String.ofList (List.replicate (w - s.length) c) ++ s

def padded (w : Nat) (i : Int) : String :=
  if i < 0 then "-" ++ padLeft (w - 1) '0' (natDigits i.natAbs)
  else padLeft w '0' (natDigits i.natAbs)

def bitLength (n : Nat) : Nat := if n = 0 then 0 else Nat.log2 n + 1

theorem wrap64_isWord (x : Int) : IsWord (wrap64 x) := by
  have h63 : Int.pow 2 63 = 9223372036854775808 := by decide
  have h64 : Nat.pow 2 64 = 18446744073709551616 := by decide
  unfold IsWord wrap64
  rw [h63, h64]
  constructor
  · have := Int.le_bmod (x := x) (m := 18446744073709551616) (by decide)
    omega
  · have := Int.bmod_lt (x := x) (m := 18446744073709551616) (by decide)
    omega

end KeyedComposite
