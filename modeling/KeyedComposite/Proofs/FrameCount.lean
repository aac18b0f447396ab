import Mathlib
import KeyedComposite.Time.FrameFormat
import KeyedComposite.Proofs.Word

/-! # Counting frames

At a frame format with a positive rate `num / den` frames per second, frame `n` starts at
`n · den / num` seconds, and the frames of a time `t` are counted as `⌊t · num / den⌋`: the
one integer whose frame starts at or before `t` while the next frame starts after it. The
floor rounds toward minus infinity, so a time just before zero lies in frame `-1`. An absent
time holds no frames, whatever the rate.

The start of frame `n` is exact while `n · den` is a word, and counting the frames up to it
gives `n` back. The count itself is kept in a word: while the exact counts are words a later
time never holds fewer frames, but the count of a time past the last word frame wraps round
to the most negative word.
-/
namespace KeyedComposite.FrameFormat

section Counting

variable {f : FrameFormat} {t : Rat}

theorem frames_eq (f : FrameFormat) (t : Rat) :
    f.frames t = wrap64 ⌊t * f.rateNum / f.rateDen⌋ := by
  rw [frames, Rat.divInt_eq_div, mul_div_assoc]
  rfl

@[simp] theorem frameCount_none (f : FrameFormat) : f.frameCount none = .ok 0 := rfl

theorem frameCount_some (hden : f.rateDen ≠ 0) (t : Rat) :
    f.frameCount (some t) = .ok (wrap64 ⌊t * f.rateNum / f.rateDen⌋) := by
  rw [frameCount, frameAt, if_neg hden, frames_eq]

theorem frameCount_some_of_isWord (hden : f.rateDen ≠ 0)
    (hfit : IsWord ⌊t * f.rateNum / f.rateDen⌋) :
    f.frameCount (some t) = .ok ⌊t * f.rateNum / f.rateDen⌋ := by
  rw [frameCount_some hden, wrap64_of_isWord hfit]

/-- The floor of the exact frame number is the frame that starts at or before `t` and whose
successor starts after `t`. -/
theorem floor_frames_eq_iff (hnum : 0 < f.rateNum) (hden : 0 < f.rateDen) (n : Int) :
    ⌊t * f.rateNum / f.rateDen⌋ = n ↔
      n * f.rateDen / f.rateNum ≤ t ∧ t < (n + 1) * f.rateDen / f.rateNum := by
  have hn : (0 : Rat) < f.rateNum := by exact_mod_cast hnum
  have hd : (0 : Rat) < f.rateDen := by exact_mod_cast hden
  rw [Int.floor_eq_iff, le_div_iff₀ hd, div_lt_iff₀ hd, div_le_iff₀ hn, lt_div_iff₀ hn]

theorem frameCount_eq_ok_iff (hnum : 0 < f.rateNum) (hden : 0 < f.rateDen)
    (hfit : IsWord ⌊t * f.rateNum / f.rateDen⌋) (n : Int) :
    f.frameCount (some t) = .ok n ↔
      n * f.rateDen / f.rateNum ≤ t ∧ t < (n + 1) * f.rateDen / f.rateNum := by
  rw [frameCount_some_of_isWord hden.ne' hfit, Except.ok.injEq, floor_frames_eq_iff hnum hden]

theorem floor_frames_mono (hnum : 0 < f.rateNum) (hden : 0 < f.rateDen) {s : Rat} (hst : s ≤ t) :
    ⌊s * f.rateNum / f.rateDen⌋ ≤ ⌊t * f.rateNum / f.rateDen⌋ := by
  have hn : (0 : Rat) ≤ f.rateNum := by exact_mod_cast hnum.le
  have hd : (0 : Rat) ≤ f.rateDen := by exact_mod_cast hden.le
  exact Int.floor_le_floor (div_le_div_of_nonneg_right (mul_le_mul_of_nonneg_right hst hn) hd)

end Counting

section Starts

variable {f : FrameFormat} {n : Int}

theorem isWord_of_isWord_mul {d : Int} (hd : 0 < d) (h : IsWord (n * d)) : IsWord n := by
  unfold IsWord at h ⊢
  rcases le_or_gt 0 n with hn | hn
  · have : n ≤ n * d := by nlinarith
    omega
  · have : n * d ≤ n := by nlinarith
    omega

theorem secondsOf_of_isWord (hnum : f.rateNum ≠ 0) (h : IsWord (n * f.rateDen)) :
    f.secondsOf n = .ok (n * f.rateDen / f.rateNum) := by
  rw [secondsOf, if_neg hnum, mul64, wrap64_of_isWord h, Rat.divInt_eq_div]
  push_cast
  rfl

theorem floor_frameStart (hnum : f.rateNum ≠ 0) (hden : f.rateDen ≠ 0) (n : Int) :
    ⌊(n * f.rateDen / f.rateNum : Rat) * f.rateNum / f.rateDen⌋ = n := by
  have hn : (f.rateNum : Rat) ≠ 0 := by exact_mod_cast hnum
  have hd : (f.rateDen : Rat) ≠ 0 := by exact_mod_cast hden
  have hback : (n * f.rateDen / f.rateNum : Rat) * f.rateNum / f.rateDen = n := by
    field_simp
  rw [hback, Int.floor_intCast]

theorem frameCount_frameStart (hnum : 0 < f.rateNum) (hden : 0 < f.rateDen)
    (h : IsWord (n * f.rateDen)) :
    f.frameCount (some (n * f.rateDen / f.rateNum)) = .ok n := by
  rw [frameCount_some hden.ne', floor_frameStart hnum.ne' hden.ne' n,
    wrap64_of_isWord (isWord_of_isWord_mul hden h)]

end Starts

/-- Frame counting at a positive rate. An absent time holds no frames. The count of a time `t`
is `⌊t · num / den⌋` whenever that floor is a word, and it is then the one integer `n` with
`n · den / num ≤ t < (n + 1) · den / num`, also for negative times. When `n · den` is a word,
frame `n` starts at exactly `n · den / num` and holds frame `n`. A later time holds at least as
many frames whenever the floors of both times are words. -/
theorem frameCount_is_floor (f : FrameFormat) (hnum : 0 < f.rateNum) (hden : 0 < f.rateDen) :
    f.frameCount none = .ok 0 ∧
    (∀ t : Rat, IsWord ⌊t * f.rateNum / f.rateDen⌋ →
      f.frameCount (some t) = .ok ⌊t * f.rateNum / f.rateDen⌋ ∧
      ∀ n : Int, f.frameCount (some t) = .ok n ↔
        n * f.rateDen / f.rateNum ≤ t ∧ t < (n + 1) * f.rateDen / f.rateNum) ∧
    (∀ n : Int, IsWord (n * f.rateDen) →
      f.secondsOf n = .ok (n * f.rateDen / f.rateNum) ∧
      f.frameCount (some (n * f.rateDen / f.rateNum)) = .ok n) ∧
    (∀ s t : Rat, s ≤ t → IsWord ⌊s * f.rateNum / f.rateDen⌋ →
      IsWord ⌊t * f.rateNum / f.rateDen⌋ →
      ∃ m n, f.frameCount (some s) = .ok m ∧ f.frameCount (some t) = .ok n ∧ m ≤ n) := by
  refine ⟨frameCount_none f, fun t hfit => ⟨frameCount_some_of_isWord hden.ne' hfit,
    frameCount_eq_ok_iff hnum hden hfit⟩, fun n h => ⟨secondsOf_of_isWord hnum.ne' h,
    frameCount_frameStart hnum hden h⟩, fun s t hst hs ht => ?_⟩
  exact ⟨_, _, frameCount_some_of_isWord hden.ne' hs, frameCount_some_of_isWord hden.ne' ht,
    floor_frames_mono hnum hden hst⟩

/-- At the standard rate half a second holds eleven whole frames, and the forty-eighth of a
second before zero lies in frame `-1`. -/
theorem frameCount_is_floor_standard :
    0 < standard.rateNum ∧ 0 < standard.rateDen ∧
    standard.frameCount (some (1 / 2)) = .ok 11 ∧
    standard.frameCount (some (-1 / 48)) = .ok (-1) := by
  have hnum : 0 < standard.rateNum := by decide
  have hden : 0 < standard.rateDen := by decide
  have h := frameCount_is_floor standard hnum hden
  refine ⟨hnum, hden, ((h.2.1 _ (by decide +kernel)).2 11).mpr ?_,
    ((h.2.1 _ (by decide +kernel)).2 (-1)).mpr ?_⟩
  · norm_num [standard]
  · norm_num [standard]

/-- The count of a time past the last word frame wraps: at the standard rate, the start of
frame `2^63` is a positive time whose count is the most negative word, below the count of
time zero. -/
theorem frameCount_wraps_past_last_word :
    (0 : Rat) ≤ 9223372036854775808 * 1001 / 24000 ∧
    standard.frameCount (some 0) = .ok 0 ∧
    standard.frameCount (some (9223372036854775808 * 1001 / 24000)) =
      .ok (-9223372036854775808) := by
  have hstart : (9223372036854775808 * 1001 / 24000 : Rat) =
      ((9223372036854775808 : Int) * standard.rateDen / standard.rateNum : Rat) := by
    norm_num [standard]
  refine ⟨by norm_num, ?_, ?_⟩
  · rw [frameCount_some (by decide), zero_mul, zero_div, Int.floor_zero]
    decide
  · rw [frameCount_some (by decide), hstart, floor_frameStart (by decide) (by decide)]
    decide

end KeyedComposite.FrameFormat
