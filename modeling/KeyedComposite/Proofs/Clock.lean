import KeyedComposite.Proofs.FrameCount
import KeyedComposite.Proofs.Except

/-! # Clock text of a frame

`clock` writes the start of frame `n` as `HH:MM:SS.mmm`. Its milliseconds are the exact start
`n · den / num` in milliseconds rounded half up, `⌊1000 · n · den / num + 1/2⌋`; the text
splits them into hours, minutes, seconds and milliseconds, zero-padded to two, two, two and
three digits, with the hours not wrapped. So the minute and second fields lie in `[0, 59]`,
the milliseconds in `[0, 999]`, the fields recompose the rounded count, and the text is within
half a millisecond of the exact start. A negative frame is written as its magnitude behind a
minus sign, and a later frame never reads as an earlier time. All this holds at a positive
rate whenever `1000 · n · den` is a word.
-/
namespace KeyedComposite.FrameFormat

def roundedMillis (f : FrameFormat) (n : Int) : Int :=
  ⌊(1000 * n * f.rateDen / f.rateNum : Rat) + 1 / 2⌋

/-- `HH:MM:SS.mmm` of a count of milliseconds, as `%02d:%02d:%02d.%03d` writes the hours,
minutes, seconds and milliseconds; the hours are not wrapped. -/
def clockText (ms : Int) : String :=
  padded 2 (ms / 3600000) ++ ":" ++ padded 2 (ms / 60000 % 60) ++ ":" ++
    padded 2 (ms / 1000 % 60) ++ "." ++ padded 3 (ms % 1000)

variable {f : FrameFormat}

theorem abs_roundedMillis_sub_le (n : Int) :
    |(f.roundedMillis n : Rat) / 1000 - n * f.rateDen / f.rateNum| ≤ 1 / 2000 := by
  have hlow := Int.floor_le ((1000 * n * f.rateDen / f.rateNum : Rat) + 1 / 2)
  have hhigh := Int.lt_floor_add_one ((1000 * n * f.rateDen / f.rateNum : Rat) + 1 / 2)
  have hscale : (1000 * n * f.rateDen / f.rateNum : Rat) = 1000 * (n * f.rateDen / f.rateNum) := by
    ring
  rw [← roundedMillis, hscale] at hlow hhigh
  rw [abs_le]
  constructor <;> linarith

section Rounding

variable (hnum : 0 < f.rateNum) (hden : 0 < f.rateDen)
include hnum hden

theorem roundedMillis_nonneg {n : Int} (hn : 0 ≤ n) : 0 ≤ f.roundedMillis n := by
  have hq : (0 : Rat) ≤ 1000 * n * f.rateDen / f.rateNum := by
    have : (0 : Rat) ≤ n := by exact_mod_cast hn
    have : (0 : Rat) < f.rateNum := by exact_mod_cast hnum
    have : (0 : Rat) < f.rateDen := by exact_mod_cast hden
    positivity
  exact Int.floor_nonneg.mpr (by linarith)

/-- Rounded milliseconds never exceed `1000 · n · den`: dividing by a positive integer rate
numerator cannot raise a non-negative value past the next half. -/
theorem roundedMillis_le {n : Int} (hn : 0 ≤ n) : f.roundedMillis n ≤ 1000 * n * f.rateDen := by
  have hnum1 : (1 : Rat) ≤ f.rateNum := by exact_mod_cast hnum
  have hx : (0 : Rat) ≤ 1000 * n * f.rateDen := by
    have : (0 : Rat) ≤ n := by exact_mod_cast hn
    have : (0 : Rat) < f.rateDen := by exact_mod_cast hden
    positivity
  have hdiv : (1000 * n * f.rateDen / f.rateNum : Rat) ≤ 1000 * n * f.rateDen :=
    div_le_self hx hnum1
  rw [roundedMillis, Int.floor_le_iff]
  push_cast
  linarith

theorem roundedMillis_mono {n n' : Int} (h : n ≤ n') : f.roundedMillis n ≤ f.roundedMillis n' := by
  have hn : (0 : Rat) ≤ f.rateNum := by exact_mod_cast hnum.le
  have hd : (0 : Rat) ≤ f.rateDen := by exact_mod_cast hden.le
  have hq : (n : Rat) ≤ n' := by exact_mod_cast h
  have hscaled : (1000 * n * f.rateDen : Rat) ≤ 1000 * n' * f.rateDen :=
    mul_le_mul_of_nonneg_right (by linarith) hd
  have hdiv := div_le_div_of_nonneg_right hscaled hn
  rw [roundedMillis, roundedMillis]
  exact Int.floor_le_floor (by linarith)

end Rounding

section Text

/-- The clock text of frame `n` once the start of its magnitude `m` is known and rounds to a
word: the sign, then the fields of the rounded milliseconds. -/
theorem clock_of_secondsOf {n m : Int} {s : Rat} (hm : (if n < 0 then wrap64 (-n) else n) = m)
    (hs : f.secondsOf m = .ok s) (h0 : 0 ≤ s) (hw : IsWord ⌊s * 1000 + 1 / 2⌋) :
    f.clock n = .ok ((if n < 0 then "-" else "") ++ clockText ⌊s * 1000 + 1 / 2⌋) := by
  have hms : 0 ≤ s * 1000 + Rat.divInt 1 2 := by
    rw [Rat.divInt_eq_div]
    push_cast
    linarith
  have htotal : Int.tdiv (s * 1000 + Rat.divInt 1 2).num (s * 1000 + Rat.divInt 1 2).den =
      ⌊s * 1000 + 1 / 2⌋ := by
    rw [Int.tdiv_eq_ediv_of_nonneg (Rat.num_nonneg.mpr hms), ← Rat.floor_def, Rat.divInt_eq_div]
    push_cast
    rfl
  have hM : 0 ≤ ⌊s * 1000 + 1 / 2⌋ := Int.floor_nonneg.mpr (by linarith)
  simp only [clock, hm, hs, except_ok_bind, htotal, wrap64_of_isWord hw,
    Int.tdiv_eq_ediv_of_nonneg hM, Int.tmod_eq_emod_of_nonneg hM,
    Int.tmod_eq_emod_of_nonneg (Int.ediv_nonneg hM (by decide : (0 : Int) ≤ 60000)),
    Int.tmod_eq_emod_of_nonneg (Int.ediv_nonneg hM (by decide : (0 : Int) ≤ 1000)), clockText,
    String.append_assoc]
  rfl

theorem clock_of_magnitude (hnum : 0 < f.rateNum) (hden : 0 < f.rateDen) {n m : Int}
    (hm : (if n < 0 then wrap64 (-n) else n) = m) (hm0 : 0 ≤ m)
    (hw : IsWord (1000 * m * f.rateDen)) :
    f.clock n = .ok ((if n < 0 then "-" else "") ++ clockText (f.roundedMillis m)) := by
  have hmden : IsWord (m * f.rateDen) :=
    isWord_of_isWord_mul (d := 1000) (by decide)
      (by rw [show m * f.rateDen * 1000 = 1000 * m * f.rateDen by ring]; exact hw)
  have hstart : (m * f.rateDen / f.rateNum : Rat) * 1000 + 1 / 2 =
      1000 * m * f.rateDen / f.rateNum + 1 / 2 := by
    ring
  have h0 : (0 : Rat) ≤ m * f.rateDen / f.rateNum := by
    have : (0 : Rat) ≤ m := by exact_mod_cast hm0
    have : (0 : Rat) < f.rateNum := by exact_mod_cast hnum
    have : (0 : Rat) < f.rateDen := by exact_mod_cast hden
    positivity
  have hword : IsWord (f.roundedMillis m) := by
    have hlow := roundedMillis_nonneg hnum hden hm0
    have hhigh := roundedMillis_le hnum hden hm0
    unfold IsWord at hw ⊢
    omega
  rw [clock_of_secondsOf hm (secondsOf_of_isWord hnum.ne' hmden) h0 (by rwa [hstart]), hstart,
    ← roundedMillis]

end Text

/-- Clock text at a positive rate, for every frame `n ≥ 0` with `1000 · n · den` a word: the
text writes the rounded milliseconds `M = ⌊1000 · n · den / num + 1/2⌋` as
`%02d:%02d:%02d.%03d` of `M / 3600000`, `M / 60000 % 60`, `M / 1000 % 60` and `M % 1000`. The
minute and second fields lie in `[0, 59]` and the milliseconds in `[0, 999]`, the fields add up
to `M`, and `M / 1000` is within half a millisecond of the exact start. Frame `-n` is written
as frame `n` behind a minus sign, and `M` never decreases as `n` grows. -/
theorem clock_rounds_millis_half_up (f : FrameFormat) (hnum : 0 < f.rateNum)
    (hden : 0 < f.rateDen) (n : Int) (hn : 0 ≤ n) (hw : IsWord (1000 * n * f.rateDen)) :
    f.clock n = .ok (clockText (f.roundedMillis n)) ∧
    0 ≤ f.roundedMillis n / 3600000 ∧
    0 ≤ f.roundedMillis n / 60000 % 60 ∧ f.roundedMillis n / 60000 % 60 ≤ 59 ∧
    0 ≤ f.roundedMillis n / 1000 % 60 ∧ f.roundedMillis n / 1000 % 60 ≤ 59 ∧
    0 ≤ f.roundedMillis n % 1000 ∧ f.roundedMillis n % 1000 ≤ 999 ∧
    f.roundedMillis n / 3600000 * 3600000 + f.roundedMillis n / 60000 % 60 * 60000 +
      f.roundedMillis n / 1000 % 60 * 1000 + f.roundedMillis n % 1000 = f.roundedMillis n ∧
    |(f.roundedMillis n : Rat) / 1000 - n * f.rateDen / f.rateNum| ≤ 1 / 2000 ∧
    (0 < n → f.clock (-n) = .ok ("-" ++ clockText (f.roundedMillis n))) ∧
    ∀ n', n ≤ n' → f.roundedMillis n ≤ f.roundedMillis n' := by
  have hM := roundedMillis_nonneg hnum hden hn
  have hpos : f.clock n = .ok (clockText (f.roundedMillis n)) := by
    have h := clock_of_magnitude hnum hden (if_neg (Int.not_lt.mpr hn)) hn hw
    rwa [if_neg (Int.not_lt.mpr hn), String.empty_append] at h
  have hneg : 0 < n → f.clock (-n) = .ok ("-" ++ clockText (f.roundedMillis n)) := by
    intro hn0
    have hneg : -n < 0 := by omega
    have hmag : wrap64 (-(-n)) = n := by
      rw [Int.neg_neg]
      exact wrap64_of_isWord (isWord_of_isWord_mul (d := 1000 * f.rateDen) (by positivity)
        (by rw [show n * (1000 * f.rateDen) = 1000 * n * f.rateDen by ring]; exact hw))
    have h := clock_of_magnitude hnum hden ((if_pos hneg).trans hmag) hn hw
    rwa [if_pos hneg] at h
  refine ⟨hpos, by omega, by omega, by omega, by omega, by omega, by omega, by omega, by omega,
    abs_roundedMillis_sub_le n, hneg, fun n' h => roundedMillis_mono hnum hden h⟩

/-- At the standard rate frame 86400 starts at 3603.6 s, written `01:00:03.600`, and frame
`-86400` behind a minus sign. -/
theorem clock_rounds_millis_half_up_standard :
    standard.clock 86400 = .ok (clockText 3603600) ∧
    standard.clock (-86400) = .ok ("-" ++ clockText 3603600) := by
  have hM : standard.roundedMillis 86400 = 3603600 := by
    rw [roundedMillis, Int.floor_eq_iff]
    norm_num [standard]
  obtain ⟨hpos, -, -, -, -, -, -, -, -, -, hneg, -⟩ :=
    clock_rounds_millis_half_up standard (by decide) (by decide) 86400 (by decide) (by decide)
  rw [hM] at hpos hneg
  exact ⟨hpos, hneg (by decide)⟩

example : clockText 3603600 = "01:00:03.600" := by decide

end KeyedComposite.FrameFormat
