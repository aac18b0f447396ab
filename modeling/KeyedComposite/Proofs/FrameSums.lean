import KeyedComposite.Proofs.FrameCount
import KeyedComposite.Proofs.Repack

/-! # Truncating interval by interval

Each interval's length is the floor of its exact frame number, so it drops the fractional
part, a sub-frame remainder in `[0, 1)`. The interval total adds the truncated lengths, and
truncating each term before adding loses less than one frame per term but never gains: for
`n` terms the total lies between `⌊Σ xᵢ⌋ - (n - 1)` and `⌊Σ xᵢ⌋`, with `⌊Σ xᵢ⌋` reached exactly
when the remainders add up to less than one frame. For intervals of non-negative duration
whose summed duration counts a word of frames, no partial total wraps, so the word total is
the plain sum of the lengths.
-/
namespace KeyedComposite

section Floors

theorem sum_floor_add_sum_fract (xs : List Rat) :
    (((xs.map (⌊·⌋)).sum : Int) : Rat) + (xs.map Int.fract).sum = xs.sum := by
  rw [Int.cast_list_sum, List.map_map, ← List.sum_map_add]
  congr 1
  conv_rhs => rw [← List.map_id xs]
  exact List.map_congr_left fun x _ => Int.floor_add_fract x

theorem sum_fract_lt_length {xs : List Rat} (hne : xs ≠ []) :
    (xs.map Int.fract).sum < xs.length := by
  cases xs with
  | nil => exact absurd rfl hne
  | cons x rest =>
    have hx := Int.fract_lt_one x
    have hrest : (rest.map Int.fract).sum ≤ (rest.map Int.fract).length • (1 : Rat) :=
      List.sum_le_card_nsmul _ 1 fun y hy => by
        obtain ⟨z, -, rfl⟩ := List.mem_map.mp hy
        exact (Int.fract_lt_one z).le
    simp only [List.map_cons, List.sum_cons, List.length_cons, List.length_map, nsmul_eq_mul,
      mul_one, Nat.cast_add, Nat.cast_one] at hrest ⊢
    linarith

theorem sum_fract_nonneg (xs : List Rat) : 0 ≤ (xs.map Int.fract).sum :=
  List.sum_nonneg fun _ hx => by
    obtain ⟨x, -, rfl⟩ := List.mem_map.mp hx
    exact Int.fract_nonneg x

theorem floor_sum (xs : List Rat) :
    ⌊xs.sum⌋ = (xs.map (⌊·⌋)).sum + ⌊(xs.map Int.fract).sum⌋ := by
  rw [← sum_floor_add_sum_fract xs, Int.floor_intCast_add]

theorem sum_floor_le_floor_sum (xs : List Rat) : (xs.map (⌊·⌋)).sum ≤ ⌊xs.sum⌋ := by
  have hlow : 0 ≤ ⌊(xs.map Int.fract).sum⌋ := Int.floor_nonneg.mpr (sum_fract_nonneg xs)
  rw [floor_sum]
  omega

/-- Truncating each term first loses less than one per term after the first, never gains, and
loses nothing exactly when the remainders add up to less than one. -/
theorem sum_floor_bounds {xs : List Rat} (hne : xs ≠ []) :
    (xs.map (⌊·⌋)).sum ≤ ⌊xs.sum⌋ ∧ ⌊xs.sum⌋ ≤ (xs.map (⌊·⌋)).sum + xs.length - 1 ∧
      ((xs.map (⌊·⌋)).sum = ⌊xs.sum⌋ ↔ (xs.map Int.fract).sum < 1) := by
  have hlow : 0 ≤ ⌊(xs.map Int.fract).sum⌋ := Int.floor_nonneg.mpr (sum_fract_nonneg xs)
  have hhigh : ⌊(xs.map Int.fract).sum⌋ < xs.length :=
    Int.floor_lt.mpr (by exact_mod_cast sum_fract_lt_length hne)
  have hzero : ⌊(xs.map Int.fract).sum⌋ = 0 ↔ (xs.map Int.fract).sum < 1 := by
    rw [Int.floor_eq_zero_iff, Set.mem_Ico, and_iff_right (sum_fract_nonneg xs)]
  rw [floor_sum]
  refine ⟨by omega, by omega, ?_⟩
  rw [← hzero]
  omega

end Floors

section WordSums

/-- A word sum of non-negative terms from a non-negative start is exact while the whole sum is
a word: no partial sum can pass it. -/
theorem foldl_wrap64_of_nonneg {c : Int} {xs : List Int} (hc : 0 ≤ c) (hxs : ∀ x ∈ xs, 0 ≤ x)
    (hw : IsWord (c + xs.sum)) :
    xs.foldl (fun acc x => wrap64 (acc + x)) c = c + xs.sum := by
  induction xs generalizing c with
  | nil => simp
  | cons x rest ih =>
    have hx := hxs x List.mem_cons_self
    have hrest : 0 ≤ rest.sum := List.sum_nonneg fun y hy => hxs y (List.mem_cons_of_mem x hy)
    have hcx : IsWord (c + x) := by
      unfold IsWord at hw ⊢
      rw [List.sum_cons] at hw
      omega
    rw [List.foldl_cons, wrap64_of_isWord hcx, ih (by omega)
      (fun y hy => hxs y (List.mem_cons_of_mem x hy)) (by rwa [List.sum_cons, ← Int.add_assoc] at hw),
      List.sum_cons, Int.add_assoc]

theorem wordSum_of_nonneg {xs : List Int} (hxs : ∀ x ∈ xs, 0 ≤ x) (hw : IsWord xs.sum) :
    wordSum xs = xs.sum := by
  rw [wordSum, foldl_wrap64_of_nonneg (le_refl 0) hxs (by rwa [Int.zero_add]), Int.zero_add]

end WordSums

section Intervals

variable {f : FrameFormat}

theorem Interval.durationFrames_eq_floor (hnum : 0 < f.rateNum) (hden : 0 < f.rateDen)
    {iv : Interval} (hdur : 0 ≤ iv.duration) (hfit : IsWord ⌊iv.duration * f.rateNum / f.rateDen⌋) :
    iv.durationFrames f = ⌊iv.duration * f.rateNum / f.rateDen⌋ := by
  have hn : (0 : Rat) ≤ f.rateNum := by exact_mod_cast hnum.le
  have hd : (0 : Rat) ≤ f.rateDen := by exact_mod_cast hden.le
  have hpos : 0 ≤ ⌊iv.duration * f.rateNum / f.rateDen⌋ :=
    Int.floor_nonneg.mpr (div_nonneg (mul_nonneg hdur hn) hd)
  rw [Interval.durationFrames, FrameFormat.frames_eq, wrap64_of_isWord hfit, max_eq_right hpos]

theorem sum_duration_frames (ivs : List Interval) :
    (ivs.map (·.duration)).sum * f.rateNum / f.rateDen =
      (ivs.map fun iv => (iv.duration * f.rateNum / f.rateDen : Rat)).sum := by
  simp only [div_eq_mul_inv, mul_assoc, ← List.sum_map_mul_right]

end Intervals

section Truncation

/- The intervals' exact frame numbers `xᵢ = dᵢ · num / den`: the shared hypotheses are a positive
rate, non-negative durations and a summed duration that counts a word of frames. -/

variable {f : FrameFormat} (hnum : 0 < f.rateNum) (hden : 0 < f.rateDen) {ivs : List Interval}
  (hdur : ∀ iv ∈ ivs, 0 ≤ iv.duration)
  (hfit : IsWord ⌊(ivs.map (·.duration)).sum * f.rateNum / f.rateDen⌋)
include hnum hden hdur

theorem frameNumbers_nonneg :
    ∀ x ∈ ivs.map fun iv => (iv.duration * f.rateNum / f.rateDen : Rat), 0 ≤ x := by
  have hn : (0 : Rat) ≤ f.rateNum := by exact_mod_cast hnum.le
  have hd : (0 : Rat) ≤ f.rateDen := by exact_mod_cast hden.le
  intro x hx
  obtain ⟨iv, hiv, rfl⟩ := List.mem_map.mp hx
  exact div_nonneg (mul_nonneg (hdur iv hiv) hn) hd

theorem floors_nonneg :
    ∀ z ∈ (ivs.map fun iv => (iv.duration * f.rateNum / f.rateDen : Rat)).map (⌊·⌋), 0 ≤ z := by
  intro z hz
  obtain ⟨x, hx, rfl⟩ := List.mem_map.mp hz
  exact Int.floor_nonneg.mpr (frameNumbers_nonneg hnum hden hdur x hx)

include hfit

/-- Each interval counts at most the frames of the summed duration, so its count is a word and
its length is the floor of its exact frame number. -/
theorem durationFrames_eq_floor_of_sum_fits :
    ∀ iv ∈ ivs, iv.durationFrames f = ⌊iv.duration * f.rateNum / f.rateDen⌋ := by
  have hx0 := frameNumbers_nonneg hnum hden hdur
  intro iv hiv
  have hmem : iv.duration * f.rateNum / f.rateDen ∈
      ivs.map fun iv => (iv.duration * f.rateNum / f.rateDen : Rat) := List.mem_map_of_mem hiv
  have hbelow : ⌊iv.duration * f.rateNum / f.rateDen⌋ ≤
      ⌊(ivs.map fun iv => (iv.duration * f.rateNum / f.rateDen : Rat)).sum⌋ :=
    Int.floor_le_floor (List.single_le_sum hx0 _ hmem)
  have hpos : 0 ≤ ⌊iv.duration * f.rateNum / f.rateDen⌋ := Int.floor_nonneg.mpr (hx0 _ hmem)
  refine Interval.durationFrames_eq_floor hnum hden (hdur iv hiv) ?_
  rw [sum_duration_frames] at hfit
  unfold IsWord at hfit ⊢
  omega

theorem map_durationFrames_eq_floors :
    ivs.map (·.durationFrames f) =
      (ivs.map fun iv => (iv.duration * f.rateNum / f.rateDen : Rat)).map (⌊·⌋) := by
  rw [List.map_map]
  exact List.map_congr_left (durationFrames_eq_floor_of_sum_fits hnum hden hdur hfit)

theorem totalFrames_eq_sum_floors :
    totalFrames f ivs =
      ((ivs.map fun iv => (iv.duration * f.rateNum / f.rateDen : Rat)).map (⌊·⌋)).sum := by
  have hfloors0 := floors_nonneg hnum hden hdur
  rw [Composite.totalFrames_eq_wordSum, map_durationFrames_eq_floors hnum hden hdur hfit]
  refine wordSum_of_nonneg hfloors0 ?_
  have hlow := List.sum_nonneg hfloors0
  have hhigh := sum_floor_le_floor_sum (ivs.map fun iv => (iv.duration * f.rateNum / f.rateDen : Rat))
  rw [sum_duration_frames] at hfit
  unfold IsWord at hfit ⊢
  omega

theorem losses_eq_fract :
    (ivs.map fun iv => (iv.duration * f.rateNum / f.rateDen - iv.durationFrames f : Rat)) =
      (ivs.map fun iv => (iv.duration * f.rateNum / f.rateDen : Rat)).map Int.fract := by
  rw [List.map_map]
  refine List.map_congr_left fun iv hiv => ?_
  rw [Function.comp_apply, durationFrames_eq_floor_of_sum_fits hnum hden hdur hfit iv hiv,
    Int.fract]

end Truncation

/-- Intervals of non-negative duration are truncated one by one, and their total lies between
`n - 1` frames below the frame count of their summed duration and that count, reaching it
exactly when the sub-frame remainders add up to less than one frame. Both the interval total
and the repacked total are the plain sum of the lengths, provided only that the summed
duration counts a word of frames. -/
theorem totalFrames_truncates_summed_duration (f : FrameFormat) (hnum : 0 < f.rateNum)
    (hden : 0 < f.rateDen) (ivs : List Interval) (hne : ivs ≠ [])
    (hdur : ∀ iv ∈ ivs, 0 ≤ iv.duration)
    (hfit : IsWord ⌊(ivs.map (·.duration)).sum * f.rateNum / f.rateDen⌋) :
    (Composite.repack f ivs).2 = totalFrames f ivs ∧
    totalFrames f ivs = (ivs.map (·.durationFrames f)).sum ∧
    (∀ iv ∈ ivs, 0 ≤ iv.duration * f.rateNum / f.rateDen - iv.durationFrames f ∧
      iv.duration * f.rateNum / f.rateDen - iv.durationFrames f < 1) ∧
    ∃ n, f.frameCount (some (ivs.map (·.duration)).sum) = .ok n ∧
      totalFrames f ivs ≤ n ∧ n ≤ totalFrames f ivs + ivs.length - 1 ∧
      (totalFrames f ivs = n ↔
        (ivs.map fun iv => (iv.duration * f.rateNum / f.rateDen - iv.durationFrames f : Rat)).sum <
          1) := by
  set xs := ivs.map fun iv => (iv.duration * f.rateNum / f.rateDen : Rat) with hxs
  have hsum : (ivs.map (·.duration)).sum * f.rateNum / f.rateDen = xs.sum := sum_duration_frames ivs
  have hxne : xs ≠ [] := by simpa [hxs] using hne
  obtain ⟨hle, hge, hexact⟩ := sum_floor_bounds hxne
  have htotal : totalFrames f ivs = (xs.map (⌊·⌋)).sum := totalFrames_eq_sum_floors hnum hden hdur hfit
  have hlength := durationFrames_eq_floor_of_sum_fits hnum hden hdur hfit
  refine ⟨Composite.repack_snd f ivs,
    htotal.trans (by rw [map_durationFrames_eq_floors hnum hden hdur hfit]), fun iv hiv => ?_,
    ⌊xs.sum⌋, ?_, by omega, by rw [List.length_map] at hge; omega, ?_⟩
  · rw [hlength iv hiv]
    exact ⟨Int.fract_nonneg _, Int.fract_lt_one _⟩
  · rw [FrameFormat.frameCount_some_of_isWord hden.ne' hfit, hsum]
  · rw [htotal, hexact, losses_eq_fract hnum hden hdur hfit]

/-- One second and half a second at the standard rate are 23 and 11 frames long, 34 together,
while their summed duration holds 35 frames. -/
theorem totalFrames_truncates_one_and_a_half_seconds :
    totalFrames .standard [{ duration := 1 }, { duration := 1 / 2 }] = 34 ∧
    ∃ n, FrameFormat.standard.frameCount
      (some (([{ duration := 1 }, { duration := 1 / 2 }] : List Interval).map (·.duration)).sum) =
        .ok n ∧ 34 < n := by
  have htotal : totalFrames .standard [{ duration := 1 }, { duration := 1 / 2 }] = 34 := by
    decide +kernel
  obtain ⟨-, -, -, n, hn, hle, -, hexact⟩ :=
    totalFrames_truncates_summed_duration .standard (by decide) (by decide)
      [{ duration := 1 }, { duration := 1 / 2 }] (by simp) (by decide +kernel) (by decide +kernel)
  refine ⟨htotal, n, hn, lt_of_le_of_ne (htotal ▸ hle) fun h34 => ?_⟩
  have hloss := hexact.mp (htotal.trans h34)
  revert hloss
  decide +kernel


end KeyedComposite
