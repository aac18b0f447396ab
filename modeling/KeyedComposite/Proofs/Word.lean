import KeyedComposite.Numeric.Word

/-! # Word arithmetic

`wrap64` is the identity on words, and wrapping an operand of a sum or difference before
the result is wrapped changes nothing. A running total kept in a word is `wordSum`: it
depends on each term only modulo `2^64`, and it is exact while every partial sum is a
word.
-/
namespace KeyedComposite

theorem wrap64_of_isWord {x : Int} (h : IsWord x) : wrap64 x = x := by
  have h63 : Int.pow 2 63 = 9223372036854775808 := by decide
  have h64 : Nat.pow 2 64 = 18446744073709551616 := by decide
  unfold IsWord at h
  unfold wrap64
  rw [h63] at h
  rw [h64]
  exact Int.bmod_eq_of_le_mul_two (by omega) (by omega)

@[simp] theorem wrap64_wrap64 (x : Int) : wrap64 (wrap64 x) = wrap64 x :=
  wrap64_of_isWord (wrap64_isWord x)

@[simp] theorem wrap64_wrap64_add (x y : Int) : wrap64 (wrap64 x + y) = wrap64 (x + y) :=
  Int.bmod_add_bmod

@[simp] theorem wrap64_add_wrap64 (x y : Int) : wrap64 (x + wrap64 y) = wrap64 (x + y) :=
  Int.add_bmod_bmod

@[simp] theorem wrap64_wrap64_sub (x y : Int) : wrap64 (wrap64 x - y) = wrap64 (x - y) :=
  Int.bmod_sub_bmod

@[simp] theorem wrap64_sub_wrap64 (x y : Int) : wrap64 (x - wrap64 y) = wrap64 (x - y) :=
  Int.sub_bmod_bmod

theorem wrap64_wrap64_sub_add (x y z : Int) :
    wrap64 (wrap64 x - y + z) = wrap64 (x - y + z) := by
  rw [← wrap64_wrap64_add, wrap64_wrap64_sub, wrap64_wrap64_add]

theorem isWord_zero : IsWord 0 := by decide

theorem isWord_max_zero {x : Int} (h : IsWord x) : IsWord (max 0 x) := by
  unfold IsWord at h ⊢
  have : (0 : Int) ≤ Int.pow 2 63 := by decide
  omega

def wordSum (xs : List Int) : Int := xs.foldl (fun acc x => wrap64 (acc + x)) 0

theorem foldl_wrap64_map_wrap64 (c : Int) (xs : List Int) :
    (xs.map wrap64).foldl (fun acc x => wrap64 (acc + x)) c =
      xs.foldl (fun acc x => wrap64 (acc + x)) c := by
  induction xs generalizing c with
  | nil => rfl
  | cons x xs ih => simp only [List.map_cons, List.foldl_cons, wrap64_add_wrap64, ih]

theorem wordSum_map_wrap64 (xs : List Int) : wordSum (xs.map wrap64) = wordSum xs :=
  foldl_wrap64_map_wrap64 0 xs

theorem isWord_foldl_wrap64 {c : Int} (hc : IsWord c) (xs : List Int) :
    IsWord (xs.foldl (fun acc x => wrap64 (acc + x)) c) := by
  induction xs generalizing c with
  | nil => exact hc
  | cons x xs ih => exact ih (wrap64_isWord _)

theorem isWord_wordSum (xs : List Int) : IsWord (wordSum xs) :=
  isWord_foldl_wrap64 isWord_zero xs

end KeyedComposite
