import KeyedComposite.Numeric.Binary64

/-! # Fixed places

`fixed p f` writes a binary64 value with exactly `p` digits after the point. The exact
value `m · 2^e · 10^p` is rounded to an integer, a tie going to the even neighbour, and
the point is put back. A negative value keeps its sign even when it rounds to zero; the
values that are not finite are `NaN`, `+Inf` and `-Inf`.
-/
namespace KeyedComposite

/-- `num / den` rounded to an integer, a tie going to the even neighbour. -/
def roundDivEven (num den : Nat) : Nat :=
  let q := num / den
  let r := num % den
  if 2 * r > den ∨ (2 * r = den ∧ q % 2 = 1) then q + 1 else q

theorem roundDivEven_exact (q den : Nat) (h : 0 < den) : roundDivEven (q * den) den = q := by
  unfold roundDivEven
  simp [Nat.mul_div_cancel _ h, Nat.mul_mod_left]
  omega

def placesText (p n : Nat) : String :=
  let whole := natDigits (n / Nat.pow 10 p)
  if p = 0 then whole else whole ++ "." ++ padLeft p '0' (natDigits (n % Nat.pow 10 p))

def fixed (p : Nat) (f : Float) : String :=
  match Binary64.kind f with
  | .nan => "NaN"
  | .infinite => if Binary64.isNegative f then "-Inf" else "+Inf"
  | _ =>
    let m := Binary64.significand f
    let e := Binary64.exponent f
    let n := roundDivEven (m * Nat.pow 2 e.toNat * Nat.pow 10 p) (Nat.pow 2 (-e).toNat)
    (if Binary64.isNegative f then "-" else "") ++ placesText p n

end KeyedComposite
