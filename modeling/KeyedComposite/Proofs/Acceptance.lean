import Mathlib
import KeyedComposite.Proofs.Declarations

/-! # Which composites the check accepts

`Document.check` accepts a composite exactly when it is well formed, and its registry is then
the composite's declarations, in order, each looked up as its own kind. When it refuses one,
the refusal is a duplicate id exactly when the first declared id that cannot be declared (the
first that is empty or repeats one before it) is a nonempty repeat; every other refusal,
among them every reference that does not resolve, is a dangling reference.
-/
namespace KeyedComposite.Composite

/-- Among ids declared in order, the first that cannot be declared (the first that is empty or
repeats an id before it) is a nonempty repeat. -/
def FirstOffenceRepeats (ids : List String) : Prop :=
  ∃ pre x post, ids = pre ++ x :: post ∧ pre.Nodup ∧ "" ∉ pre ∧ x ≠ "" ∧ x ∈ pre

/-- An id that is empty or repeats one of `pre` cannot follow `pre` in ids that are nonempty
and distinct. -/
theorem not_offends_of_leading {pre l : List String} {x : String} (hlead : pre ++ [x] <+: l)
    (hnodup : l.Nodup) (hne : "" ∉ l) : ¬ (x = "" ∨ x ∈ pre) := by
  have hsub := hlead.sublist
  rintro (rfl | hmem)
  · exact hne (hsub.subset (by simp))
  · exact (List.nodup_append.mp (hsub.nodup hnodup)).2.2 x hmem x (by simp) rfl

/-- A list of ids has at most one first offence: two splits, each before an id that is empty or
repeats one before it and each with nonempty distinct ids before it, are the same split. -/
theorem eq_of_first_offences {pre pre' post post' : List String} {x x' : String}
    (h : pre ++ x :: post = pre' ++ x' :: post')
    (hnodup : pre.Nodup) (hne : "" ∉ pre) (hx : x = "" ∨ x ∈ pre)
    (hnodup' : pre'.Nodup) (hne' : "" ∉ pre') (hx' : x' = "" ∨ x' ∈ pre') :
    pre = pre' ∧ x = x' := by
  have hfirst : pre ++ [x] <+: pre' ++ x' :: post' := ⟨post, by rw [← h]; simp⟩
  have hsecond : pre' ++ [x'] <+: pre ++ x :: post := ⟨post', by rw [h]; simp⟩
  rcases lt_trichotomy pre.length pre'.length with hlt | heq | hgt
  · have hin := List.prefix_of_prefix_length_le hfirst (List.prefix_append pre' _)
      (by simp; omega)
    exact absurd hx (not_offends_of_leading hin hnodup' hne')
  · obtain ⟨rfl, hcons⟩ := List.append_inj h heq
    exact ⟨rfl, (List.cons.inj hcons).1⟩
  · have hin := List.prefix_of_prefix_length_le hsecond (List.prefix_append pre _)
      (by simp; omega)
    exact absurd hx' (not_offends_of_leading hin hnodup hne)

/-- At a first offence, the ids hold a nonempty repeat first exactly when the offending id is
not empty. -/
theorem firstOffenceRepeats_iff {pre post : List String} {x : String} (hnodup : pre.Nodup)
    (hne : "" ∉ pre) (hx : x = "" ∨ x ∈ pre) :
    FirstOffenceRepeats (pre ++ x :: post) ↔ x ≠ "" := by
  constructor
  · rintro ⟨pre', x', post', hsplit, hnodup', hne', hx', hmem⟩
    obtain ⟨-, rfl⟩ := eq_of_first_offences hsplit hnodup hne hx hnodup' hne' (.inr hmem)
    exact hx'
  · intro hx'
    exact ⟨pre, x, post, rfl, hnodup, hne, hx', hx.resolve_left hx'⟩

theorem not_firstOffenceRepeats_of_nodup {ids : List String} (hnodup : ids.Nodup) :
    ¬ FirstOffenceRepeats ids := by
  rintro ⟨pre, x, post, rfl, -, -, -, hmem⟩
  exact (List.nodup_append.mp hnodup).2.2 x hmem x (by simp) rfl

namespace Registry

/-- Declaring a list succeeds exactly when its ids are nonempty, pairwise distinct and not yet
declared, and then appends the list. -/
theorem declareAll_eq_ok_iff {r r' : Registry} {ds : List (String × Kind)} :
    r.declareAll ds = .ok r' ↔
      (∀ d ∈ ds, d.1 ≠ "") ∧ (ds.map Prod.fst).Nodup ∧ (∀ d ∈ ds, d.1 ∉ r.ids) ∧
        r' = ⟨r.entries ++ ds⟩ := by
  induction ds generalizing r with
  | nil =>
    cases r
    simp only [declareAll, Except.ok.injEq, List.not_mem_nil, List.map_nil, List.nodup_nil,
      List.append_nil]
    simp only [IsEmpty.forall_iff, implies_true, true_and]
    exact eq_comm
  | cons d ds ih =>
    simp only [declareAll, except_bind_eq_ok, declare_eq_ok_iff]
    constructor
    · rintro ⟨s, ⟨hid, hnew, rfl⟩, hrest⟩
      obtain ⟨hne, hnodup, hfresh, rfl⟩ := ih.mp hrest
      refine ⟨?_, ?_, ?_, by simp⟩
      · simpa [hid] using hne
      · refine List.nodup_cons.mpr ⟨fun hmem => ?_, hnodup⟩
        obtain ⟨d', hd', heq⟩ := List.mem_map.mp hmem
        exact hfresh d' hd' (by simp [heq])
      · intro d' hd'
        rcases List.mem_cons.mp hd' with rfl | hd'
        · exact hnew
        · intro hmem
          apply hfresh d' hd'
          rw [ids_mk, List.map_append]
          exact List.mem_append_left _ hmem
    · rintro ⟨hne, hnodup, hfresh, rfl⟩
      obtain ⟨hhead, hnodup'⟩ := List.nodup_cons.mp hnodup
      refine ⟨_, ⟨hne d (by simp), hfresh d (by simp), rfl⟩, ih.mpr ⟨?_, hnodup', ?_, by simp⟩⟩
      · exact fun d' hd' => hne d' (by simp [hd'])
      · intro d' hd' hmem
        simp only [ids_mk, List.map_append, List.mem_append, List.map_cons, List.map_nil,
          List.mem_singleton] at hmem
        rcases hmem with hmem | heq
        · exact hfresh d' (by simp [hd']) hmem
        · exact hhead (heq ▸ List.mem_map_of_mem hd')

/-- Declaring a list that fails fails at its first refused declaration, every declaration
before it accepted. -/
theorem declareAll_eq_error {r : Registry} {ds : List (String × Kind)} {e : CompositeError}
    (h : r.declareAll ds = .error e) :
    ∃ pre id k post, ds = pre ++ (id, k) :: post ∧ r.declareAll pre = .ok ⟨r.entries ++ pre⟩ ∧
      (Registry.mk (r.entries ++ pre)).declare id k = .error e := by
  induction ds generalizing r with
  | nil => cases h
  | cons d ds ih =>
    rw [declareAll, except_bind_eq_error] at h
    rcases h with hd | ⟨s, hs, hrest⟩
    · exact ⟨[], d.1, d.2, ds, rfl, by simp [declareAll], by simpa using hd⟩
    · obtain ⟨pre, id, k, post, rfl, hpre, hid⟩ := ih hrest
      obtain ⟨-, -, rfl⟩ := declare_eq_ok_iff.mp hs
      refine ⟨d :: pre, id, k, post, rfl, ?_, by simpa using hid⟩
      rw [declareAll, hs, except_ok_bind, hpre]
      simp

/-- Declaring ids in order from the empty registry is refused for a duplicate exactly when the
first id that cannot be declared is a nonempty repeat, and as a dangling reference otherwise. -/
theorem failureClass_of_declareAll_eq_error {ds : List (String × Kind)} {e : CompositeError}
    (h : Registry.declareAll {} ds = .error e) :
    (e.failureClass = .duplicateId ↔ FirstOffenceRepeats (ds.map Prod.fst)) ∧
    (e.failureClass = .danglingReference ↔ ¬ FirstOffenceRepeats (ds.map Prod.fst)) := by
  obtain ⟨pre, id, k, post, rfl, hpre, hid⟩ := declareAll_eq_error h
  simp only [List.nil_append] at hpre hid
  obtain ⟨hne, hnodup, -, -⟩ := declareAll_eq_ok_iff.mp hpre
  have hoffends : id = "" ∨ id ∈ pre.map Prod.fst := by
    by_contra hfresh
    rw [not_or] at hfresh
    rw [declare_eq_ok hfresh.1 hfresh.2] at hid
    cases hid
  have hempty : "" ∉ pre.map Prod.fst := fun hmem => by
    obtain ⟨p, hp, hp1⟩ := List.mem_map.mp hmem
    exact hne p hp hp1
  rw [List.map_append, List.map_cons, firstOffenceRepeats_iff hnodup hempty hoffends,
    failureClass_of_declare_eq_error hid]
  by_cases hid : id = "" <;> simp [hid]

theorem require_eq_ok_iff {r : Registry} {place : Place} {id : String} {allowed : List Kind} :
    r.require place id allowed = .ok () ↔ ∃ k ∈ allowed, r.lookup? id = some k := by
  cases h : r.lookup? id with
  | none => simp [require, h]
  | some k => by_cases hk : k ∈ allowed <;> simp [require, h, hk]

theorem failureClass_of_require_eq_error {r : Registry} {place : Place} {id : String}
    {allowed : List Kind} {e : CompositeError} (h : r.require place id allowed = .error e) :
    e.failureClass = .danglingReference := by
  unfold require at h
  split at h
  · cases h
    rfl
  · split at h
    · cases h
    · cases h
      rfl

end Registry

namespace Document

variable {d : Document}

theorem checkEntries_eq_ok_iff {r : Registry} {p : Playlist} :
    checkEntries r p = .ok () ↔
      ∀ e ∈ p.entries, ∃ k ∈ [Kind.producer, .tractor], r.lookup? e.producer = some k := by
  rw [checkEntries, forM_eq_ok_iff]
  constructor
  · intro h e he
    have hnumbered : e ∈ p.entries.zipIdx.map Prod.fst := by rw [List.zipIdx_map_fst]; exact he
    obtain ⟨⟨e', i⟩, hx, rfl⟩ := List.mem_map.mp hnumbered
    exact Registry.require_eq_ok_iff.mp (h _ hx)
  · intro h x hx
    exact Registry.require_eq_ok_iff.mpr (h x.1 (List.fst_mem_of_mem_zipIdx hx))

theorem checkTransition_eq_ok_iff {tracks : Nat} {t : Transition} :
    checkTransition tracks t = .ok () ↔ ∀ i ∈ [t.aTrack, t.bTrack], 0 ≤ i ∧ i < tracks := by
  rw [checkTransition, forM_eq_ok_iff]
  refine forall₂_congr fun i _ => ?_
  simp only [ite_eq_right_iff, reduceCtorEq, imp_false, not_or]
  omega

theorem failureClass_of_declared {r : Registry} {e : CompositeError}
    (hall : Registry.declareAll {} d.declarations = .ok r) (h : d.check = .error e) :
    e.failureClass = .danglingReference := by
  simp only [check, hall, except_ok_bind, except_bind_eq_error] at h
  rcases h with hroot | ⟨-, -, hentries | ⟨-, -, htracks | ⟨-, -, htransitions | ⟨-, -, hret⟩⟩⟩⟩
  · exact Registry.failureClass_of_require_eq_error hroot
  · obtain ⟨p, -, hp⟩ := exists_mem_of_forM_eq_error hentries
    obtain ⟨x, -, hx⟩ := exists_mem_of_forM_eq_error hp
    exact Registry.failureClass_of_require_eq_error hx
  · obtain ⟨x, -, hx⟩ := exists_mem_of_forM_eq_error htracks
    exact Registry.failureClass_of_require_eq_error hx
  · obtain ⟨t, -, ht⟩ := exists_mem_of_forM_eq_error htransitions
    obtain ⟨i, -, hi⟩ := exists_mem_of_forM_eq_error ht
    split at hi
    · cases hi
      rfl
    · cases hi
  · cases hret

theorem require_declarations_eq_ok_iff (hnodup : (d.declarations.map Prod.fst).Nodup)
    {place : Place} {id : String} {allowed : List Kind} :
    (Registry.mk d.declarations).require place id allowed = .ok () ↔ d.Declares id allowed := by
  rw [Registry.require_eq_ok_iff]
  exact exists_congr fun k => and_congr_right fun _ => Registry.lookup?_eq_some_iff hnodup

/-- `check` accepts exactly the well-formed composites, with the registry of their
declarations. -/
theorem check_eq_ok_iff {r : Registry} : d.check = .ok r ↔ d.WellFormed ∧ r = ⟨d.declarations⟩ := by
  refine ⟨fun h => ?_, fun hwf => hwf.2 ▸ hwf.1.check_eq_ok⟩
  simp only [check, except_bind_eq_ok] at h
  obtain ⟨r₀, hall, u₁, hroot, u₂, hentries, u₃, htracks, u₄, htransitions, hret⟩ := h
  obtain ⟨hne, hnodup, -, rfl⟩ := Registry.declareAll_eq_ok_iff.mp hall
  simp only [List.nil_append] at hroot hentries htracks htransitions hret ⊢
  refine ⟨⟨hnodup, hne, (require_declarations_eq_ok_iff hnodup).mp hroot, ?_, ?_, ?_⟩,
    (except_pure_eq_ok.mp hret).symm⟩
  · intro p hp e he
    obtain ⟨k, hk, hlookup⟩ := checkEntries_eq_ok_iff.mp (forM_eq_ok_iff.mp hentries p hp) e he
    exact ⟨k, hk, Registry.mem_entries_of_lookup?_eq_some hlookup⟩
  · intro t ht
    have hnumbered : t ∈ d.tractor.tracks.zipIdx.map Prod.fst := by
      rw [List.zipIdx_map_fst]; exact ht
    obtain ⟨⟨t', i⟩, hx, rfl⟩ := List.mem_map.mp hnumbered
    exact (require_declarations_eq_ok_iff hnodup).mp (forM_eq_ok_iff.mp htracks _ hx)
  · intro tr htr
    exact checkTransition_eq_ok_iff.mp (forM_eq_ok_iff.mp htransitions tr htr)

/-- A refused composite is refused for a duplicate id exactly when its first declared id that
cannot be declared is a nonempty repeat, and for a dangling reference otherwise. -/
theorem failureClass_of_check_eq_error {e : CompositeError} (h : d.check = .error e) :
    (e.failureClass = .duplicateId ↔ FirstOffenceRepeats (d.declarations.map Prod.fst)) ∧
    (e.failureClass = .danglingReference ↔ ¬ FirstOffenceRepeats (d.declarations.map Prod.fst)) := by
  cases hall : Registry.declareAll {} d.declarations with
  | error e' =>
    rw [check, hall, except_error_bind] at h
    cases h
    exact Registry.failureClass_of_declareAll_eq_error hall
  | ok r =>
    obtain ⟨-, hnodup, -, -⟩ := Registry.declareAll_eq_ok_iff.mp hall
    simp [failureClass_of_declared hall h, not_firstOffenceRepeats_of_nodup hnodup]

/-- The check accepts a composite exactly when it is well formed: the ids it declares (the bin,
each producer followed by its filters, the playlists, the tractor, its transitions) are
nonempty and distinct, the root names a producer, playlist or tractor, every entry of the bin
and the playlists a producer or the tractor, every track a producer or playlist, and every
transition's two tracks lie among the tracks. The registry of an accepted composite lists its
declared ids in order and looks each up as its kind. A refusal is a duplicate id exactly when
the first declared id that cannot be declared is a nonempty repeat, and a dangling reference
otherwise. -/
theorem check_accepts_exactly_wellFormed (d : Document) :
    ((∃ r, d.check = .ok r) ↔ d.WellFormed) ∧
    (∀ r, d.check = .ok r → r.ids = d.declarations.map Prod.fst ∧
      ∀ id k, r.lookup? id = some k ↔ (id, k) ∈ d.declarations) ∧
    ∀ e, d.check = .error e →
      (e.failureClass = .duplicateId ↔ FirstOffenceRepeats (d.declarations.map Prod.fst)) ∧
      (e.failureClass = .danglingReference ↔
        ¬ FirstOffenceRepeats (d.declarations.map Prod.fst)) := by
  refine ⟨⟨fun h => ?_, fun hwf => ⟨_, hwf.check_eq_ok⟩⟩, fun r hr => ?_,
    fun e he => failureClass_of_check_eq_error he⟩
  · obtain ⟨r, hr⟩ := h
    exact (check_eq_ok_iff.mp hr).1
  · obtain ⟨hwf, rfl⟩ := check_eq_ok_iff.mp hr
    exact ⟨rfl, fun id k => Registry.lookup?_eq_some_iff hwf.nodup⟩

example : ({ mainBin := { id := "main_bin" }, producers := [{ id := "" }, { id := "main_bin" }] } :
    Document).check = .error (.emptyId .producer) :=
  rfl

end Document

end KeyedComposite.Composite
