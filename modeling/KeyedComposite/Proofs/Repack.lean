import KeyedComposite.Composite.Build
import KeyedComposite.Proofs.Word

/-! # Laying intervals end to end

`repack` gives the `k`-th interval the placement `placementAt k`: numbered `k`, starting on
the output frame where the lengths before it end (added as words), as long as the interval's
own whole-frame length, and reading the source from the interval's first source frame on.
Its total is the word sum of all lengths, `totalFrames`, however the sums wrap. Lengths are
never negative and always words.
-/
namespace KeyedComposite.Composite

variable (f : FrameFormat)

def placementAt (ivs : List Interval) (k : Nat) (iv : Interval) : Placement :=
  { index := k, start := totalFrames f (ivs.take k), length := iv.durationFrames f,
    inPoint := iv.mediaStartFrames f,
    outPoint := wrap64 (iv.mediaStartFrames f + iv.durationFrames f - 1) }

theorem repackFrom_cons (i : Nat) (c : Int) (iv : Interval) (rest : List Interval) :
    repackFrom f i c (iv :: rest) =
      ({ index := i, start := c, length := iv.durationFrames f,
         inPoint := iv.mediaStartFrames f,
         outPoint := wrap64 (iv.mediaStartFrames f + iv.durationFrames f - 1) } ::
        (repackFrom f (i + 1) (wrap64 (c + iv.durationFrames f)) rest).1,
       (repackFrom f (i + 1) (wrap64 (c + iv.durationFrames f)) rest).2) := rfl

/-- From position `i` and output frame `c` on, the `k`-th placement starts where the word sum
of the `k` lengths before it, begun at `c`, ends. -/
theorem repackFrom_fst (i : Nat) (c : Int) (ivs : List Interval) :
    (repackFrom f i c ivs).1 = ivs.zipIdx.map fun (iv, k) =>
      { index := i + k,
        start := (ivs.take k).foldl (fun acc iv => wrap64 (acc + iv.durationFrames f)) c,
        length := iv.durationFrames f, inPoint := iv.mediaStartFrames f,
        outPoint := wrap64 (iv.mediaStartFrames f + iv.durationFrames f - 1) } := by
  induction ivs generalizing i c with
  | nil => rfl
  | cons iv rest ih =>
    rw [repackFrom_cons, ih, List.zipIdx_cons, List.zipIdx_succ]
    simp [Nat.add_assoc, Nat.add_comm 1]

theorem repackFrom_snd (i : Nat) (c : Int) (ivs : List Interval) :
    (repackFrom f i c ivs).2 = ivs.foldl (fun acc iv => wrap64 (acc + iv.durationFrames f)) c := by
  induction ivs generalizing i c with
  | nil => rfl
  | cons iv rest ih => rw [repackFrom_cons, ih, List.foldl_cons]

theorem repack_fst (ivs : List Interval) :
    (repack f ivs).1 = ivs.zipIdx.map fun (iv, k) => placementAt f ivs k iv := by
  simp [repack, repackFrom_fst, placementAt, totalFrames]

theorem repack_snd (ivs : List Interval) : (repack f ivs).2 = totalFrames f ivs :=
  repackFrom_snd f 0 0 ivs

@[simp] theorem length_repack (ivs : List Interval) : (repack f ivs).1.length = ivs.length := by
  simp [repack_fst]

theorem map_index_repack (ivs : List Interval) :
    (repack f ivs).1.map Placement.index = List.range ivs.length := by
  have hindex : (fun (p : Interval × Nat) => (placementAt f ivs p.2 p.1).index) = Prod.snd := rfl
  rw [repack_fst, List.map_map, Function.comp_def, hindex, List.zipIdx_map_snd,
    List.range_eq_range']

theorem totalFrames_eq_wordSum (ivs : List Interval) :
    totalFrames f ivs = wordSum (ivs.map (·.durationFrames f)) := by
  simp [totalFrames, wordSum, List.foldl_map]

theorem isWord_totalFrames (ivs : List Interval) : IsWord (totalFrames f ivs) := by
  rw [totalFrames_eq_wordSum]
  exact isWord_wordSum _

theorem isWord_durationFrames (iv : Interval) : IsWord (iv.durationFrames f) :=
  isWord_max_zero (wrap64_isWord _)

theorem wrap64_durationFrames_sub_one (iv : Interval) :
    wrap64 (iv.durationFrames f - 1) = iv.durationFrames f - 1 := by
  have hw := isWord_durationFrames f iv
  have hnn := iv.durationFrames_nonneg f
  apply wrap64_of_isWord
  unfold IsWord at hw ⊢
  omega

end KeyedComposite.Composite
