import Mathlib
import KeyedComposite.Proofs.Repack
import KeyedComposite.Proofs.Except

/-! # Placements lie end to end

`EndToEnd lo ps hi` says that placements cover the output frames `[lo, hi)` one after
another: the first starts at `lo`, each next one where the one before ends, the last ends at
`hi`, and no length is negative. It is the loop invariant of `repackFrom` on its cursor:
one step places an interval at the cursor and moves the cursor past it, so as long as no
running total leaves a word, a whole repack lies end to end from frame 0 to its total.
Placements that lie end to end come in order, do not overlap, and leave no frame of
`[lo, hi)` uncovered.

The last source frame `in + length - 1` is a word computation of its own: a clip whose
first source frame is the lowest word and whose length is zero has its last frame wrap
around to the highest word, one past its first rather than one before.
-/
namespace KeyedComposite.Composite

def Placement.Covers (p : Placement) (t : Int) : Prop := p.start ≤ t ∧ t < p.start + p.length

def EndToEnd : Int → List Placement → Int → Prop
  | lo, [], hi => lo = hi
  | lo, p :: ps, hi => p.start = lo ∧ 0 ≤ p.length ∧ EndToEnd (lo + p.length) ps hi

namespace EndToEnd

theorem hi_eq : ∀ {lo hi : Int} {ps : List Placement}, EndToEnd lo ps hi →
    hi = lo + (ps.map (·.length)).sum
  | _, _, [], h => by simp only [EndToEnd] at h; simp [h]
  | lo, hi, p :: ps, ⟨_, _, h⟩ => by
    rw [hi_eq h, List.map_cons, List.sum_cons, Int.add_assoc]

theorem le_hi : ∀ {lo hi : Int} {ps : List Placement}, EndToEnd lo ps hi → lo ≤ hi
  | _, _, [], h => by simp only [EndToEnd] at h; omega
  | lo, hi, p :: ps, ⟨_, hlen, h⟩ => by have := le_hi h; omega

theorem inside : ∀ {lo hi : Int} {ps : List Placement}, EndToEnd lo ps hi →
    ∀ q ∈ ps, lo ≤ q.start ∧ q.start + q.length ≤ hi
  | _, _, [], _, q, hq => absurd hq List.not_mem_nil
  | lo, hi, p :: ps, ⟨hp, hlen, h⟩, q, hq => by
    rcases List.mem_cons.mp hq with rfl | hq
    · have := le_hi h
      omega
    · have := inside h q hq
      omega

theorem pairwise : ∀ {lo hi : Int} {ps : List Placement}, EndToEnd lo ps hi →
    ps.Pairwise fun p q => p.start + p.length ≤ q.start
  | _, _, [], _ => List.Pairwise.nil
  | lo, hi, p :: ps, ⟨hp, _, h⟩ =>
    List.Pairwise.cons (fun q hq => by have := inside h q hq; omega) (pairwise h)

theorem cover : ∀ {lo hi : Int} {ps : List Placement}, EndToEnd lo ps hi →
    ∀ t, lo ≤ t → t < hi → ∃ p ∈ ps, p.Covers t
  | _, _, [], h, t, hlo, hhi => by simp only [EndToEnd] at h; omega
  | lo, hi, p :: ps, ⟨hp, _, h⟩, t, hlo, hhi => by
    by_cases ht : t < lo + p.length
    · exact ⟨p, List.mem_cons_self, by rw [hp]; exact hlo, by rw [hp]; exact ht⟩
    · obtain ⟨q, hq, hcov⟩ := cover h t (by omega) hhi
      exact ⟨q, List.mem_cons_of_mem _ hq, hcov⟩

end EndToEnd

section Repack

variable (f : FrameFormat)

/-- From cursor `c` on, a repack lies end to end up to its total as long as every running
total from `c` stays a word. -/
theorem endToEnd_repackFrom (i : Nat) (c : Int) (ivs : List Interval)
    (hsums : ∀ k ≤ ivs.length, IsWord (c + ((ivs.take k).map (·.durationFrames f)).sum)) :
    EndToEnd c (repackFrom f i c ivs).1 (repackFrom f i c ivs).2 := by
  induction ivs generalizing i c with
  | nil => rfl
  | cons iv rest ih =>
    have hstep : wrap64 (c + iv.durationFrames f) = c + iv.durationFrames f :=
      wrap64_of_isWord (by simpa using hsums 1 (by simp))
    rw [repackFrom_cons, hstep]
    refine ⟨rfl, iv.durationFrames_nonneg f, ih (i + 1) _ fun k hk => ?_⟩
    simpa [Int.add_assoc] using hsums (k + 1) (by simpa using hk)

theorem repackFrom_congr (i : Nat) (c : Int) {ivs ivs' : List Interval}
    (h : ivs'.map (fun iv => (iv.start, iv.duration)) = ivs.map fun iv => (iv.start, iv.duration)) :
    repackFrom f i c ivs' = repackFrom f i c ivs := by
  induction ivs generalizing ivs' i c with
  | nil => rw [List.map_eq_nil_iff.mp h]
  | cons iv rest ih =>
    obtain ⟨iv', rest', rfl, hiv, hrest⟩ := List.map_eq_cons_iff.mp h
    have hframes : iv'.durationFrames f = iv.durationFrames f ∧
        iv'.mediaStartFrames f = iv.mediaStartFrames f := by
      simp only [Prod.mk.injEq] at hiv
      simp [Interval.durationFrames, Interval.mediaStartFrames, hiv.1, hiv.2]
    rw [repackFrom_cons, repackFrom_cons, hframes.1, hframes.2, ih _ _ hrest]

end Repack

/-- At a frame rate with a positive numerator and denominator, repacking lays the intervals
end to end from frame 0 in list order, as long as no running total of their lengths and no
last source frame leaves a word. Each interval's first frame and length are frame counts
that do not fail at such a rate. The `k`-th placement is numbered `k` and plays the `k`-th
interval's whole-frame length, at least zero, from its first source frame to its last; the
placements come in order without overlap and cover the output frames up to the total, which
is the sum of the lengths and the interval sum; and only the intervals' starts and durations
matter. -/
theorem repack_lays_end_to_end (f : FrameFormat) (ivs : List Interval)
    (hrate : 0 < f.rateNum ∧ 0 < f.rateDen)
    (hsums : ∀ k ≤ ivs.length, IsWord ((ivs.take k).map (·.durationFrames f)).sum)
    (hlast : ∀ iv ∈ ivs, IsWord (iv.mediaStartFrames f + iv.durationFrames f - 1)) :
    (∀ iv ∈ ivs, f.frameAt iv.start = .ok (iv.mediaStartFrames f) ∧
      ∃ n, f.frameAt iv.duration = .ok n ∧ iv.durationFrames f = max 0 n) ∧
    (repack f ivs).1.length = ivs.length ∧
    (∀ k (hk : k < ivs.length), ∃ p, (repack f ivs).1[k]? = some p ∧ p.index = k ∧
      p.length = ivs[k].durationFrames f ∧ 0 ≤ p.length ∧
      p.inPoint = ivs[k].mediaStartFrames f ∧ p.outPoint - p.inPoint + 1 = p.length) ∧
    EndToEnd 0 (repack f ivs).1 (repack f ivs).2 ∧
    (repack f ivs).1.Pairwise (fun p q => p.start + p.length ≤ q.start) ∧
    (∀ t, 0 ≤ t → t < (repack f ivs).2 → ∃ p ∈ (repack f ivs).1, p.Covers t) ∧
    (repack f ivs).2 = (ivs.map (·.durationFrames f)).sum ∧
    (repack f ivs).2 = totalFrames f ivs ∧
    ∀ ivs' : List Interval, ivs'.map (fun iv => (iv.start, iv.duration)) =
      ivs.map (fun iv => (iv.start, iv.duration)) → repack f ivs' = repack f ivs := by
  have hends : EndToEnd 0 (repack f ivs).1 (repack f ivs).2 :=
    endToEnd_repackFrom f 0 0 ivs fun k hk => by simpa using hsums k hk
  have hlengths : (repack f ivs).1.map (·.length) = ivs.map (·.durationFrames f) := by
    simp [repack_fst, placementAt, Function.comp_def, map_fst_zipIdx]
  have hcount : ∀ t, f.frameAt t = .ok (f.frames t) := fun t => by
    simp [FrameFormat.frameAt, hrate.2.ne']
  refine ⟨fun iv _ => ⟨hcount iv.start, _, hcount iv.duration, rfl⟩, length_repack f ivs,
    fun k hk => ?_, hends, hends.pairwise,
    fun t h0 ht => hends.cover t h0 ht, by rw [hends.hi_eq, hlengths, Int.zero_add],
    repack_snd f ivs, fun ivs' h => repackFrom_congr f 0 0 h⟩
  refine ⟨placementAt f ivs k ivs[k], ?_, rfl, rfl, ivs[k].durationFrames_nonneg f, rfl, ?_⟩
  · simp [repack_fst, hk]
  · simp only [placementAt]
    rw [wrap64_of_isWord (hlast _ (List.getElem_mem hk))]
    omega

/-- Two clips, the later source clip first, lie end to end over the interval sum. -/
theorem repack_lays_end_to_end_two_clips :
    let ivs : List Interval := [{ start := 10, duration := 1 }, { start := 2, duration := 1 / 2 }]
    (0 < FrameFormat.standard.rateNum ∧ 0 < FrameFormat.standard.rateDen) ∧
    (∀ k ≤ ivs.length, IsWord ((ivs.take k).map (·.durationFrames .standard)).sum) ∧
    (∀ iv ∈ ivs, IsWord (iv.mediaStartFrames .standard + iv.durationFrames .standard - 1)) ∧
    EndToEnd 0 (repack .standard ivs).1 (repack .standard ivs).2 ∧
    (repack .standard ivs).2 = totalFrames .standard ivs := by
  intro ivs
  have hsums : ∀ k ≤ ivs.length, IsWord ((ivs.take k).map (·.durationFrames .standard)).sum := by
    decide +kernel
  have hlast : ∀ iv ∈ ivs,
      IsWord (iv.mediaStartFrames .standard + iv.durationFrames .standard - 1) := by
    decide +kernel
  have hrate : 0 < FrameFormat.standard.rateNum ∧ 0 < FrameFormat.standard.rateDen := by decide
  obtain ⟨-, -, -, hends, -, -, -, htotal, -⟩ :=
    repack_lays_end_to_end .standard ivs hrate hsums hlast
  exact ⟨hrate, hsums, hlast, hends, htotal⟩

/-- At the standard rate, a clip that starts on the lowest word frame and lasts no time: no
running total leaves a word and its first frame plus its length is a word, but its last source
frame wraps around to the highest word, so that the frames from its first to its last are not
its length. -/
theorem repack_last_frame_wraps_at_lowest_word :
    let ivs : List Interval := [{ start := Rat.divInt (-9223372036854775808 * 1001) 24000 }]
    (0 < FrameFormat.standard.rateNum ∧ 0 < FrameFormat.standard.rateDen) ∧
    (∀ k ≤ ivs.length, IsWord ((ivs.take k).map (·.durationFrames .standard)).sum) ∧
    (∀ iv ∈ ivs, IsWord (iv.mediaStartFrames .standard + iv.durationFrames .standard)) ∧
    ∃ p ∈ (repack .standard ivs).1, p.outPoint - p.inPoint + 1 ≠ p.length := by
  intro ivs
  have hrepack : (repack .standard ivs).1 =
      [{ index := 0, start := 0, length := 0, inPoint := -9223372036854775808,
         outPoint := 9223372036854775807 }] := by
    decide +kernel
  refine ⟨by decide, by decide +kernel, by decide +kernel, _,
    hrepack ▸ List.mem_singleton_self _, ?_⟩
  decide

end KeyedComposite.Composite
