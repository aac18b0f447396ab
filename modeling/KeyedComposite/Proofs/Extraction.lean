import Mathlib
import KeyedComposite.Project.Extract
import KeyedComposite.Proofs.Except

/-! # Extracting the keyed clips

The keyed clips of a tree, `keyedClips`, are its nodes in document order that are `clip`
elements named like the clip asked for and referencing the asset through a direct `video`
child (`KeyedClip`). Each reads as an interval (`ReadsAs`): its three times are its time
attributes read, zero when absent, and its parent is the name of its nearest ancestor with
a nonempty name, else its own name (`IsParentName`).

When every keyed clip reads, `extract` returns them all, sorted by start and stably so,
numbered by their place in that order; otherwise it fails at the first clip in document
order with a time that does not read, naming the clip, the number of keyed clips before it,
and the first of its times, in reading order, that fails.
-/
namespace KeyedComposite

namespace Seconds

theorem cut_zero_slash : Blank.cut "0" "/" = none := by
  have hsplit : ("0" : String).splitOn "/" = ["0"] := by
    rw [String.splitOn, if_neg (by decide), String.splitOnAux, if_neg (by decide),
      if_neg (by decide), String.splitOnAux, if_pos (by decide)]
    decide
  unfold Blank.cut
  rw [hsplit]

theorem read_of_cut_eq_none {text s : String} {r : Rat} (hstrip : strip text = s)
    (hempty : s.isEmpty = false) (hcut : Blank.cut s "/" = none)
    (hread : RatioText.read? s = some r) : read text = .ok r := by
  simp only [read, hstrip, hempty, hcut, hread]
  rfl

theorem read_zero_seconds : read "0s" = .ok 0 :=
  read_of_cut_eq_none (by decide) (by decide) cut_zero_slash (by decide +kernel)

end Seconds

namespace Project

open Markup

section Matching

/-- A keyed clip under options `o`: a `clip` element whose name is canonically equivalent to
the clip name, with a direct `video` child that references the asset. -/
def KeyedClip (normalize : String → String) (o : ExtractOptions) (n : Node) : Prop :=
  n.localName = "clip" ∧ normalize (n.attrOr "name" "") = normalize o.clipName ∧
    ∃ v ∈ n.children, v.localName = "video" ∧ v.attrOr "ref" "" = o.assetId

theorem isKeyedClip_iff {normalize : String → String} {o : ExtractOptions} {n : Node} :
    isKeyedClip normalize o n = true ↔ KeyedClip normalize o n := by
  simp [isKeyedClip, KeyedClip, referencesAsset, Node.childrenNamed, and_assoc]

instance (normalize : String → String) (o : ExtractOptions) :
    DecidablePred (KeyedClip normalize o) :=
  fun _ => decidable_of_iff _ isKeyedClip_iff

/-- The keyed clips of a tree with their ancestors, in document order, under the options
with their defaults. -/
def keyedClips (normalize : String → String) (o : ExtractOptions) (root : Node) :
    List (Node × List Node) :=
  (Node.visits [] root).filter fun c => KeyedClip normalize o.withDefaults c.1

theorem filter_isKeyedClip (normalize : String → String) (o : ExtractOptions) (root : Node) :
    (Node.visits [] root).filter (fun c => isKeyedClip normalize o.withDefaults c.1) =
      keyedClips normalize o root :=
  List.filter_congr fun c _ => by rw [Bool.eq_iff_iff, decide_eq_true_iff, isKeyedClip_iff]

end Matching

section Reading

/-- `name` is the name of the nearest ancestor whose name is nonempty, or the clip's own
name when no ancestor has one. -/
def IsParentName (clip : Node) (ancestors : List Node) (name : String) : Prop :=
  (∃ pre a post, ancestors = pre ++ a :: post ∧ a.attr? "name" = some name ∧ name ≠ "" ∧
    ∀ b ∈ post, ∀ v, b.attr? "name" = some v → v = "") ∨
  ((∀ b ∈ ancestors, ∀ v, b.attr? "name" = some v → v = "") ∧ name = clip.attrOr "name" "")

theorem isParentName_parentName (clip : Node) (ancestors : List Node) :
    IsParentName clip ancestors (parentName clip ancestors) := by
  unfold parentName
  split
  next name h =>
    obtain ⟨l₁, a, l₂, hsplit, ha, hnone⟩ := List.findSome?_eq_some_iff.mp h
    rw [Option.filter_eq_some_iff] at ha
    refine .inl ⟨l₂.reverse, a, l₁.reverse, ?_, ha.1, by simpa using ha.2, ?_⟩
    · rw [← List.reverse_reverse ancestors, hsplit]
      simp
    · intro b hb v hv
      simpa [hv] using hnone b (List.mem_reverse.mp hb)
  next h =>
    refine .inr ⟨fun b hb v hv => ?_, rfl⟩
    simpa [hv] using List.findSome?_eq_none_iff.mp h b (List.mem_reverse.mpr hb)

/-- The time attribute `f` of a clip reads as `t`: its text reads as `t`, or it is absent and
`t` is zero. -/
def TimeReads (clip : Node) (f : TimeField) (t : Rat) : Prop :=
  match clip.attr? f.word with
  | none => t = 0
  | some text => Seconds.read text = .ok t

theorem readTime_eq_ok_iff {clip : Node} {f : TimeField} {t : Rat} :
    readTime clip f = .ok t ↔ TimeReads clip f t := by
  unfold readTime TimeReads Node.attrOr
  cases clip.attr? f.word with
  | none => simp [Seconds.read_zero_seconds, eq_comm]
  | some text => rfl

/-- What a keyed clip with its ancestors reads as: each time its attribute, and the parent
its nearest named ancestor's name. -/
structure ReadsAs (c : Node × List Node) (iv : Interval) : Prop where
  offset : TimeReads c.1 .offset iv.offset
  start : TimeReads c.1 .start iv.start
  duration : TimeReads c.1 .duration iv.duration
  parent : IsParentName c.1 c.2 iv.parent

theorem ReadsAs.renumber {c : Node × List Node} {iv : Interval} (h : ReadsAs c iv) (i : Int) :
    ReadsAs c { iv with index := i } :=
  ⟨h.offset, h.start, h.duration, h.parent⟩

def firstBadTime (clip : Node) : Option (TimeField × Seconds.ReadError) :=
  [TimeField.offset, .start, .duration].findSome? fun f =>
    match readTime clip f with
    | .error e => some (f, e)
    | .ok _ => none

theorem readInterval_eq_ok {clip : Node} {ancestors : List Node} {position : Nat}
    {iv : Interval} (h : readInterval clip ancestors position = .ok iv) :
    iv.index = position ∧ ReadsAs (clip, ancestors) iv := by
  simp only [readInterval, Except.mapError] at h
  cases ho : readTime clip .offset <;> cases hs : readTime clip .start <;>
    cases hd : readTime clip .duration <;> simp [ho, hs, hd] at h
  subst h
  exact ⟨rfl, readTime_eq_ok_iff.mp ho, readTime_eq_ok_iff.mp hs, readTime_eq_ok_iff.mp hd,
    isParentName_parentName clip ancestors⟩

theorem exists_readInterval_eq_ok {clip : Node} (ancestors : List Node) (position : Nat)
    (h : ∀ f, ∃ t, readTime clip f = .ok t) :
    ∃ iv, readInterval clip ancestors position = .ok iv := by
  obtain ⟨o, ho⟩ := h .offset
  obtain ⟨s, hs⟩ := h .start
  obtain ⟨d, hd⟩ := h .duration
  exact ⟨_, by simp [readInterval, ho, hs, hd, Except.mapError]; rfl⟩

theorem readInterval_eq_error {clip : Node} {ancestors : List Node} {position : Nat}
    {f : TimeField} {e : Seconds.ReadError} (h : firstBadTime clip = some (f, e)) :
    readInterval clip ancestors position = .error ⟨clip.attrOr "name" "", position, f, e⟩ := by
  unfold firstBadTime at h
  simp only [List.findSome?_cons, List.findSome?_nil] at h
  cases ho : readTime clip .offset with
  | error eo =>
    simp only [ho, Option.some.injEq, Prod.mk.injEq] at h
    obtain ⟨rfl, rfl⟩ := h
    simp [readInterval, ho, Except.mapError]
  | ok o =>
    cases hs : readTime clip .start with
    | error es =>
      simp only [ho, hs, Option.some.injEq, Prod.mk.injEq] at h
      obtain ⟨rfl, rfl⟩ := h
      simp [readInterval, ho, hs, Except.mapError]
    | ok s =>
      cases hd : readTime clip .duration with
      | error ed =>
        simp only [ho, hs, hd, Option.some.injEq, Prod.mk.injEq] at h
        obtain ⟨rfl, rfl⟩ := h
        simp [readInterval, ho, hs, hd, Except.mapError]
      | ok d => simp [ho, hs, hd] at h

/-- Reading the matches of `l` after `acc` reads each keyed clip of `l`, numbered on from
`acc.length`, and stops at the first failure. -/
theorem readMatches_eq (normalize : String → String) (o : ExtractOptions)
    (l : List (Node × List Node)) (acc : List Interval) :
    readMatches normalize o l acc = Except.map (acc.reverse ++ ·)
      (((l.filter fun c => isKeyedClip normalize o c.1).zipIdx acc.length).mapM
        fun p => readInterval p.1.1 p.1.2 p.2) := by
  induction l generalizing acc with
  | nil => simp [readMatches, Except.map, pure, Except.pure]
  | cons c rest ih =>
    obtain ⟨n, ancestors⟩ := c
    by_cases hk : isKeyedClip normalize o n
    · simp only [readMatches, hk, if_true, List.filter_cons, List.zipIdx_cons, List.mapM_cons]
      cases readInterval n ancestors acc.length with
      | error e => rfl
      | ok iv =>
        rw [except_ok_bind, except_ok_bind, ih]
        cases (((rest.filter fun c => isKeyedClip normalize o c.1).zipIdx (acc.length + 1)).mapM
          fun p => readInterval p.1.1 p.1.2 p.2) with
        | error e => rfl
        | ok ivs => simp [Except.map, pure, Except.pure]
    · simp only [readMatches, hk, List.filter_cons, ih, Bool.false_eq_true, if_false]

theorem readMatches_visits (normalize : String → String) (o : ExtractOptions) (root : Node) :
    readMatches normalize o.withDefaults (Node.visits [] root) [] =
      (keyedClips normalize o root).zipIdx.mapM fun p => readInterval p.1.1 p.1.2 p.2 := by
  rw [readMatches_eq, filter_isKeyedClip]
  cases ((keyedClips normalize o root).zipIdx.mapM fun p => readInterval p.1.1 p.1.2 p.2) <;> rfl

end Reading

section Sorting

theorem mergeSort_start_sorted (l : List Interval) :
    (l.mergeSort fun a b => a.start ≤ b.start).Pairwise fun a b => a.start ≤ b.start := by
  have h : (l.mergeSort fun a b => a.start ≤ b.start).Pairwise
      fun a b => decide (a.start ≤ b.start) = true :=
    List.pairwise_mergeSort
      (fun a b c hab hbc => by simp only [decide_eq_true_eq] at *; exact le_trans hab hbc)
      (fun a b => by simpa using le_total a.start b.start) l
  simpa using h

/-- Sorting by start keeps intervals of equal start in the order of their numbers, when
each is numbered by its position. -/
theorem mergeSort_start_stable {l : List Interval}
    (hidx : ∀ (j : Nat) (iv : Interval), l[j]? = some iv → iv.index = j) :
    (l.mergeSort fun a b => a.start ≤ b.start).Pairwise
      fun a b => a.start = b.start → a.index < b.index := by
  have htrans : ∀ a b c : Interval, decide (a.start ≤ b.start) = true →
      decide (b.start ≤ c.start) = true → decide (a.start ≤ c.start) = true := by
    simp only [decide_eq_true_eq]
    exact fun a b c => le_trans
  have htotal : ∀ a b : Interval,
      (decide (a.start ≤ b.start) || decide (b.start ≤ a.start)) = true := by
    intro a b
    simpa using le_total a.start b.start
  have hnodup : l.zipIdx.Nodup := by
    apply List.Nodup.of_map Prod.snd
    rw [List.zipIdx_map_snd]
    exact List.nodup_range'
  have hZ := (List.pairwise_mergeSort (List.zipIdxLE_trans htrans) (List.zipIdxLE_total htotal)
    l.zipIdx).and ((List.mergeSort_perm _ _).nodup_iff.mpr hnodup)
  rw [← List.mergeSort_zipIdx, List.pairwise_map]
  refine hZ.imp_of_mem fun {p q} hp hq ⟨hle, hne⟩ heq => ?_
  have hp' := List.mem_zipIdx_iff_getElem?.mp (List.mem_mergeSort.mp hp)
  have hq' := List.mem_zipIdx_iff_getElem?.mp (List.mem_mergeSort.mp hq)
  rw [hidx _ _ hp', hidx _ _ hq']
  simp only [List.zipIdxLE, heq, le_refl, decide_true, if_true, decide_eq_true_eq] at hle
  have hpos : p.2 ≠ q.2 := fun h => by
    rw [h, hq'] at hp'
    exact hne (Prod.ext (Option.some.inj hp').symm h)
  omega

theorem map_index_toNat {l : List Interval}
    (hidx : ∀ (j : Nat) (iv : Interval), l[j]? = some iv → iv.index = j) :
    l.map (fun iv => iv.index.toNat) = List.range l.length := by
  apply List.ext_getElem (by simp)
  intro k hk _
  have hk' : k < l.length := by simpa using hk
  have h := hidx k l[k] (List.getElem?_eq_getElem hk')
  simp [h]

end Sorting

section Renumbering

theorem pairwise_start_renumber (l : List Interval)
    (h : l.Pairwise fun a b => a.start ≤ b.start) :
    (l.zipIdx.map fun p => { p.1 with index := (p.2 : Int) }).Pairwise
      fun a b => a.start ≤ b.start := by
  rw [List.pairwise_map]
  rw [← List.zipIdx_map_fst 0 l, List.pairwise_map] at h
  exact h

theorem index_renumber (l : List Interval) (k : Nat) (iv : Interval)
    (h : (l.zipIdx.map fun p => { p.1 with index := (p.2 : Int) })[k]? = some iv) :
    iv.index = k := by
  simp only [List.getElem?_map, List.getElem?_zipIdx] at h
  cases hk : l[k]? <;> simp [hk] at h
  subst h
  simp

variable {cs : List (Node × List Node)} {found : List Interval}
  (hspec : ∀ (j : Nat) (iv : Interval), found[j]? = some iv →
    iv.index = j ∧ ∃ c, cs[j]? = some c ∧ ReadsAs c iv)
include hspec

theorem perm_map_index_mergeSort (hlen : found.length = cs.length) :
    ((found.mergeSort fun a b => a.start ≤ b.start).map fun iv => iv.index.toNat).Perm
      (List.range cs.length) := by
  rw [← hlen, ← map_index_toNat fun j iv hj => (hspec j iv hj).1]
  exact (List.mergeSort_perm _ _).map _

theorem readsAs_of_mem_mergeSort {iv : Interval}
    (hiv : iv ∈ found.mergeSort fun a b => a.start ≤ b.start) :
    iv.index = iv.index.toNat ∧ ∃ c, cs[iv.index.toNat]? = some c ∧ ReadsAs c iv := by
  obtain ⟨j, hj⟩ := List.mem_iff_getElem?.mp (List.mem_mergeSort.mp hiv)
  obtain ⟨hidx, c, hc, hreads⟩ := hspec j iv hj
  exact ⟨by omega, c, by simpa [hidx] using hc, hreads⟩

theorem forall₂_renumber :
    List.Forall₂ (fun iv j => ∃ c, cs[j]? = some c ∧ ReadsAs c iv)
      ((found.mergeSort fun a b => a.start ≤ b.start).zipIdx.map
        fun p => { p.1 with index := (p.2 : Int) })
      ((found.mergeSort fun a b => a.start ≤ b.start).map fun iv => iv.index.toNat) := by
  rw [← map_fst_zipIdx (fun iv : Interval => iv.index.toNat), List.forall₂_map_left_iff,
    List.forall₂_map_right_iff, List.forall₂_same]
  intro p hp
  obtain ⟨-, c, hc, hreads⟩ := readsAs_of_mem_mergeSort hspec (List.fst_mem_of_mem_zipIdx hp)
  exact ⟨c, hc, hreads.renumber p.2⟩

theorem stable_renumber :
    (((found.mergeSort fun a b => a.start ≤ b.start).zipIdx.map
        fun p => { p.1 with index := (p.2 : Int) }).zip
      ((found.mergeSort fun a b => a.start ≤ b.start).map fun iv => iv.index.toNat)).Pairwise
      fun p q => p.1.start = q.1.start → p.2 < q.2 := by
  rw [← map_fst_zipIdx (fun iv : Interval => iv.index.toNat), List.zip_map', List.pairwise_map]
  have h := mergeSort_start_stable fun j iv hj => (hspec j iv hj).1
  rw [← List.zipIdx_map_fst 0 (found.mergeSort _), List.pairwise_map] at h
  refine h.imp_of_mem fun {p q} hp hq hpq heq => ?_
  have hp' := (readsAs_of_mem_mergeSort hspec (List.fst_mem_of_mem_zipIdx hp)).1
  have hq' := (readsAs_of_mem_mergeSort hspec (List.fst_mem_of_mem_zipIdx hq)).1
  have hlt := hpq heq
  omega

end Renumbering

section Extraction

variable (root : Node) (o : ExtractOptions) (normalize : String → String)

theorem getElem?_readClips {cs : List (Node × List Node)} {found : List Interval}
    (h : cs.zipIdx.mapM (fun p => readInterval p.1.1 p.1.2 p.2) = .ok found)
    (j : Nat) (iv : Interval) (hj : found[j]? = some iv) :
    iv.index = j ∧ ∃ c, cs[j]? = some c ∧ ReadsAs c iv := by
  obtain ⟨p, hp, hr⟩ := exists_getElem?_of_mapM_eq_ok h hj
  rw [List.getElem?_zipIdx] at hp
  obtain ⟨c, hc, rfl⟩ := Option.map_eq_some_iff.mp hp
  obtain ⟨hidx, hreads⟩ := readInterval_eq_ok hr
  exact ⟨by simpa using hidx, c, hc, hreads⟩

/-- When every keyed clip reads, extraction reads them all in document order, numbered by
position, then sorts them by start and renumbers them. -/
theorem extract_eq_ok_of_reads
    (hgood : ∀ c ∈ keyedClips normalize o root, ∀ f, ∃ t, readTime c.1 f = .ok t) :
    ∃ found, (keyedClips normalize o root).zipIdx.mapM
        (fun p => readInterval p.1.1 p.1.2 p.2) = .ok found ∧
      extract root o normalize = .ok ((found.mergeSort fun a b => a.start ≤ b.start).zipIdx.map
        fun p => { p.1 with index := (p.2 : Int) }) := by
  have hreads : ∀ p ∈ (keyedClips normalize o root).zipIdx, ∃ iv, readInterval p.1.1 p.1.2 p.2 = .ok iv :=
    fun p hp => exists_readInterval_eq_ok p.1.2 p.2 (hgood p.1 (List.fst_mem_of_mem_zipIdx hp))
  obtain ⟨found, hfound⟩ := exists_mapM_eq_ok hreads
  refine ⟨found, hfound, ?_⟩
  simp only [extract, readMatches_visits, hfound, except_ok_bind]
  rfl

theorem sorted_of_extract_eq_ok {ivs : List Interval} (h : extract root o normalize = .ok ivs) :
    ivs.Pairwise (fun a b => a.start ≤ b.start) ∧
      ∀ (k : Nat) (iv : Interval), ivs[k]? = some iv → iv.index = k := by
  simp only [extract, except_bind_eq_ok, except_pure_eq_ok] at h
  obtain ⟨found, -, rfl⟩ := h
  exact ⟨pairwise_start_renumber _ (mergeSort_start_sorted found), index_renumber _⟩

theorem extract_eq_error_of_first_bad {pre post : List (Node × List Node)}
    {c : Node × List Node} {f : TimeField} {cause : Seconds.ReadError}
    (hsplit : keyedClips normalize o root = pre ++ c :: post)
    (hpre : ∀ d ∈ pre, ∀ f, ∃ t, readTime d.1 f = .ok t)
    (hbad : firstBadTime c.1 = some (f, cause)) :
    extract root o normalize = .error ⟨c.1.attrOr "name" "", pre.length, f, cause⟩ := by
  have hm : (keyedClips normalize o root).zipIdx.mapM (fun p => readInterval p.1.1 p.1.2 p.2) =
      .error ⟨c.1.attrOr "name" "", pre.length, f, cause⟩ := by
    rw [hsplit, List.zipIdx_append, List.zipIdx_cons, Nat.zero_add]
    apply mapM_append_cons_eq_error
    · intro p hp
      exact exists_readInterval_eq_ok p.1.2 p.2 (hpre p.1 (List.fst_mem_of_mem_zipIdx hp))
    · exact readInterval_eq_error hbad
  simp only [extract, readMatches_visits, hm, except_error_bind]

/-- Extraction returns the keyed clips sorted by start. When every keyed clip's times read,
it returns one interval per keyed clip, in an order that puts starts in nondecreasing order
and keeps clips of equal start in document order, each what its clip reads as and numbered
by its place. Otherwise it fails at the first keyed clip in document order whose times do not
all read, naming the clip, the number of keyed clips before it, and the first of its times
that fails, with why. -/
theorem extract_sorts_keyed_clips :
    ((∀ c ∈ keyedClips normalize o root, ∀ f, ∃ t, readTime c.1 f = .ok t) →
      ∃ ivs, extract root o normalize = .ok ivs ∧ ∃ order : List Nat,
        order.Perm (List.range (keyedClips normalize o root).length) ∧
        List.Forall₂ (fun iv j => ∃ c, (keyedClips normalize o root)[j]? = some c ∧ ReadsAs c iv)
          ivs order ∧
        ivs.Pairwise (fun a b => a.start ≤ b.start) ∧
        (ivs.zip order).Pairwise (fun p q => p.1.start = q.1.start → p.2 < q.2) ∧
        ∀ (k : Nat) (iv : Interval), ivs[k]? = some iv → iv.index = k) ∧
    (∀ pre c post f cause, keyedClips normalize o root = pre ++ c :: post →
      (∀ d ∈ pre, ∀ f, ∃ t, readTime d.1 f = .ok t) → firstBadTime c.1 = some (f, cause) →
      extract root o normalize = .error ⟨c.1.attrOr "name" "", pre.length, f, cause⟩) := by
  refine ⟨fun hgood => ?_, fun pre c post f cause hsplit hpre hbad =>
    extract_eq_error_of_first_bad root o normalize hsplit hpre hbad⟩
  obtain ⟨found, hfound, hext⟩ := extract_eq_ok_of_reads root o normalize hgood
  have hspec := getElem?_readClips hfound
  have hlen : found.length = (keyedClips normalize o root).length := by
    rw [length_eq_of_mapM_eq_ok hfound, List.length_zipIdx]
  exact ⟨_, hext, _, perm_map_index_mergeSort hspec hlen, forall₂_renumber hspec,
    pairwise_start_renumber _ (mergeSort_start_sorted found), stable_renumber hspec,
    index_renumber _⟩

end Extraction

end Project

end KeyedComposite
