import Mathlib
import KeyedComposite.Numeric.Word

/-! # Decimal text reads back

The digits `natDigits` writes are decimal digits, and read with `Nat.ofDigitChars` they give
the number back. Leading zeros read as nothing and a leading minus sign negates, so the
zero-padded text `padded w` is injective at every width, negative numbers and numbers wider
than the padding included, and so is `decimal`.
-/
namespace KeyedComposite

def signedValue (cs : List Char) : Int :=
  if cs.head? = some '-' then -(Nat.ofDigitChars 10 cs.tail 0 : Int)
  else Nat.ofDigitChars 10 cs 0

theorem ofDigitChars_append_ten (a b : List Char) :
    Nat.ofDigitChars 10 (a ++ b) 0 =
      10 ^ b.length * Nat.ofDigitChars 10 a 0 + Nat.ofDigitChars 10 b 0 := by
  rw [Nat.ofDigitChars_append, Nat.ofDigitChars_eq_ofDigitChars_zero]

theorem ofDigitChars_zeros_append (m : Nat) (cs : List Char) :
    Nat.ofDigitChars 10 (List.replicate m '0' ++ cs) 0 = Nat.ofDigitChars 10 cs 0 := by
  rw [Nat.ofDigitChars_append, Nat.ofDigitChars_replicate_zero, Nat.mul_zero]

theorem div_lt_of_lt_pow_two_pow {k n : Nat} (h : n < 10 ^ 2 ^ (k + 1)) :
    n / 10 ^ 2 ^ k < 10 ^ 2 ^ k := by
  have hsq : 10 ^ 2 ^ (k + 1) = 10 ^ 2 ^ k * 10 ^ 2 ^ k := by
    rw [Nat.pow_succ, Nat.pow_mul, Nat.pow_two]
  rw [Nat.div_lt_iff_lt_mul (Nat.pow_pos (by decide))]
  omega

theorem length_toDigits_le {k n : Nat} (h : n < 10 ^ 2 ^ k) :
    (Nat.toDigits 10 n).length ≤ 2 ^ k :=
  (Nat.length_toDigits_le_iff (by decide) (Nat.pow_pos (by decide))).mpr h

theorem isDigit_of_mem_zeros_append {m : Nat} {cs : List Char} {c : Char}
    (hcs : ∀ d ∈ cs, d.isDigit) (h : c ∈ List.replicate m '0' ++ cs) : c.isDigit := by
  rcases List.mem_append.mp h with hz | hd
  · rw [List.eq_of_mem_replicate hz]
    decide
  · exact hcs c hd

theorem length_paddedBlock (k n : Nat) (h : n < 10 ^ 2 ^ k) :
    (paddedBlock k n).length = 2 ^ k := by
  fun_induction paddedBlock k n with
  | case1 k n unit ih₁ ih₂ =>
    have hunit : unit = 10 ^ 2 ^ (k + 4) := rfl
    rw [hunit] at ih₁ ih₂ ⊢
    rw [List.length_append, ih₁ (div_lt_of_lt_pow_two_pow h),
      ih₂ (Nat.mod_lt _ (Nat.pow_pos (by decide))), Nat.pow_succ 2 (k + 4)]
    omega
  | case2 k n _ ds =>
    have hds : ds = Nat.toDigits 10 n := rfl
    have := length_toDigits_le h
    rw [hds, List.length_append, List.length_replicate, Nat.pow_eq]
    omega

theorem ofDigitChars_paddedBlock (k n : Nat) (h : n < 10 ^ 2 ^ k) :
    Nat.ofDigitChars 10 (paddedBlock k n) 0 = n := by
  fun_induction paddedBlock k n with
  | case1 k n unit ih₁ ih₂ =>
    have hunit : unit = 10 ^ 2 ^ (k + 4) := rfl
    have hlow : n % unit < unit := Nat.mod_lt _ (Nat.pow_pos (by decide))
    rw [hunit] at hlow ih₁ ih₂ ⊢
    rw [ofDigitChars_append_ten, ih₁ (div_lt_of_lt_pow_two_pow h), ih₂ hlow,
      length_paddedBlock _ _ hlow, Nat.div_add_mod]
  | case2 k n _ ds =>
    exact (ofDigitChars_zeros_append _ _).trans Nat.ofDigitChars_ten_toDigits

theorem isDigit_of_mem_paddedBlock {k n : Nat} {c : Char} (h : c ∈ paddedBlock k n) :
    c.isDigit := by
  fun_induction paddedBlock k n with
  | case1 k n unit ih₁ ih₂ => exact (List.mem_append.mp h).elim ih₁ ih₂
  | case2 k n _ ds =>
    exact isDigit_of_mem_zeros_append (fun _ => Nat.isDigit_of_mem_toDigits (by decide) (by decide)) h

theorem ofDigitChars_shortBlock (k n : Nat) (h : n < 10 ^ 2 ^ k) :
    Nat.ofDigitChars 10 (shortBlock k n) 0 = n := by
  fun_induction shortBlock k n with
  | case1 k n unit hsmall ih => exact ih hsmall
  | case2 k n unit hlarge ih =>
    have hunit : unit = 10 ^ 2 ^ (k + 4) := rfl
    have hlow : n % unit < unit := Nat.mod_lt _ (Nat.pow_pos (by decide))
    rw [hunit] at hlow ih ⊢
    rw [ofDigitChars_append_ten, ih (div_lt_of_lt_pow_two_pow h), ofDigitChars_paddedBlock _ _ hlow,
      length_paddedBlock _ _ hlow, Nat.div_add_mod]
  | case3 k n _ => exact Nat.ofDigitChars_ten_toDigits

theorem isDigit_of_mem_shortBlock {k n : Nat} {c : Char} (h : c ∈ shortBlock k n) :
    c.isDigit := by
  fun_induction shortBlock k n with
  | case1 k n unit hsmall ih => exact ih h
  | case2 k n unit hlarge ih =>
    exact (List.mem_append.mp h).elim ih isDigit_of_mem_paddedBlock
  | case3 k n _ => exact Nat.isDigit_of_mem_toDigits (by decide) (by decide) h

/-- The block size `natDigits` picks holds the number: `n < 2^(log₂ n + 1)` and the exponent
is itself below the next power of two. -/
theorem lt_natDigits_block (n : Nat) :
    n < 10 ^ 2 ^ (Nat.log2 (Nat.log2 n + 1) + 1) := by
  have hbits : Nat.log2 n + 1 < 2 ^ (Nat.log2 (Nat.log2 n + 1) + 1) := Nat.lt_log2_self
  calc n < 2 ^ (Nat.log2 n + 1) := Nat.lt_log2_self
    _ ≤ 2 ^ 2 ^ (Nat.log2 (Nat.log2 n + 1) + 1) := Nat.pow_le_pow_right (by decide) (Nat.le_of_lt hbits)
    _ ≤ 10 ^ 2 ^ (Nat.log2 (Nat.log2 n + 1) + 1) := Nat.pow_le_pow_left (by decide) _

@[simp] theorem ofDigitChars_natDigits (n : Nat) :
    Nat.ofDigitChars 10 (natDigits n).toList 0 = n := by
  rw [natDigits, String.toList_ofList]
  exact ofDigitChars_shortBlock _ _ (lt_natDigits_block n)

theorem isDigit_of_mem_natDigits {n : Nat} {c : Char} (h : c ∈ (natDigits n).toList) :
    c.isDigit := by
  rw [natDigits, String.toList_ofList] at h
  exact isDigit_of_mem_shortBlock h

theorem natDigits_injective : Function.Injective natDigits := fun a b h => by
  rw [← ofDigitChars_natDigits a, ← ofDigitChars_natDigits b, h]

theorem signedValue_of_isDigit {cs : List Char} (h : ∀ c ∈ cs.head?, c.isDigit) :
    signedValue cs = Nat.ofDigitChars 10 cs 0 := by
  have hsign : cs.head? ≠ some '-' := fun hm => by simpa using h '-' hm
  simp [signedValue, hsign]

theorem signedValue_padded (w : Nat) (i : Int) : signedValue (padded w i).toList = i := by
  unfold padded padLeft
  split
  case isTrue hneg =>
    have htext : ("-" ++ (String.ofList (List.replicate (w - 1 - (natDigits i.natAbs).length) '0') ++
        natDigits i.natAbs)).toList =
        '-' :: (List.replicate (w - 1 - (natDigits i.natAbs).length) '0' ++
          (natDigits i.natAbs).toList) := by
      have hminus : "-".toList = ['-'] := by simp
      simp only [String.toList_append, String.toList_ofList, hminus, List.singleton_append]
    rw [htext, signedValue, List.head?_cons, if_pos rfl, List.tail_cons, ofDigitChars_zeros_append,
      ofDigitChars_natDigits]
    omega
  case isFalse hnonneg =>
    simp only [String.toList_append, String.toList_ofList]
    rw [signedValue_of_isDigit, ofDigitChars_zeros_append, ofDigitChars_natDigits]
    · omega
    · intro c hc
      exact isDigit_of_mem_zeros_append (fun _ => isDigit_of_mem_natDigits) (List.mem_of_mem_head? hc)

theorem padded_injective (w : Nat) : Function.Injective (padded w) := fun a b h => by
  rw [← signedValue_padded w a, ← signedValue_padded w b, h]

theorem decimal_eq_padded_zero (i : Int) : decimal i = padded 0 i := by
  simp [decimal, padded, padLeft]

theorem decimal_injective : Function.Injective decimal := fun a b h => by
  rw [decimal_eq_padded_zero, decimal_eq_padded_zero] at h
  exact padded_injective 0 h

end KeyedComposite
