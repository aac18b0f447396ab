import Mathlib
import KeyedComposite.Composite.Check
import KeyedComposite.Proofs.Except

/-! # Well-formed composites pass the check

A composite is well formed when the ids it declares are nonempty and pairwise distinct, and
every reference names an id declared with a kind its place allows: the root a producer,
playlist or tractor, a playlist entry a producer or the tractor, a track a producer or
playlist; and the two track numbers of every transition lie below the number of tracks.
`Document.check` accepts every well-formed document, and its registry is then the
document's declarations in order.
-/
namespace KeyedComposite.Composite

namespace Registry

theorem lookup?_eq_none {r : Registry} {id : String} (h : id ∉ r.ids) : r.lookup? id = none := by
  simp only [ids, List.mem_map, not_exists, not_and] at h
  simp only [lookup?, List.lookup_eq_none_iff, bne_iff_ne, ne_eq]
  intro p hp hid
  exact h p hp hid.symm

theorem lookup?_eq_some {r : Registry} {id : String} {k : Kind} (hnodup : r.ids.Nodup)
    (hmem : (id, k) ∈ r.entries) : r.lookup? id = some k := by
  obtain ⟨entries⟩ := r
  simp only [ids] at hnodup
  simp only [lookup?]
  induction entries with
  | nil => simp at hmem
  | cons e es ih =>
    obtain ⟨a, b⟩ := e
    obtain ⟨hnew, hrest⟩ := List.nodup_cons.mp hnodup
    rcases List.mem_cons.mp hmem with he | htail
    · cases he
      simp
    · have hne : (id == a) = false := by
        rw [beq_eq_false_iff_ne]
        rintro rfl
        exact hnew (List.mem_map.mpr ⟨(id, k), htail, rfl⟩)
      simp [List.lookup_cons, hne, ih hrest htail]

theorem declare_eq_ok {r : Registry} {id : String} {k : Kind} (hid : id ≠ "")
    (hnew : id ∉ r.ids) : r.declare id k = .ok ⟨r.entries ++ [(id, k)]⟩ := by
  simp [declare, hid, lookup?_eq_none hnew]

theorem declareAll_eq_ok {r : Registry} {ds : List (String × Kind)}
    (hnodup : (r.ids ++ ds.map Prod.fst).Nodup) (hne : ∀ d ∈ ds, d.1 ≠ "") :
    r.declareAll ds = .ok ⟨r.entries ++ ds⟩ := by
  induction ds generalizing r with
  | nil => simp [declareAll]
  | cons d ds ih =>
    obtain ⟨id, k⟩ := d
    have hnew : id ∉ r.ids := fun hmem =>
      (List.nodup_append.mp hnodup).2.2 id hmem id (by simp) rfl
    have hnodup' : (({ entries := r.entries ++ [(id, k)] } : Registry).ids ++
        ds.map Prod.fst).Nodup := by
      simpa [ids] using hnodup
    rw [declareAll, declare_eq_ok (hne (id, k) (by simp)) hnew, except_ok_bind,
      ih hnodup' (fun d hd => hne d (by simp [hd]))]
    simp

theorem require_eq_ok {r : Registry} {place : Place} {id : String} {k : Kind}
    {allowed : List Kind} (hnodup : r.ids.Nodup) (hmem : (id, k) ∈ r.entries)
    (hk : k ∈ allowed) : r.require place id allowed = .ok () := by
  simp [require, lookup?_eq_some hnodup hmem, hk]

end Registry

namespace Document

def Declares (d : Document) (id : String) (allowed : List Kind) : Prop :=
  ∃ k ∈ allowed, (id, k) ∈ d.declarations

/-- A composite whose ids are distinct and whose references all resolve. -/
structure WellFormed (d : Document) : Prop where
  nodup : (d.declarations.map Prod.fst).Nodup
  nonempty : ∀ x ∈ d.declarations, x.1 ≠ ""
  root : d.Declares d.root [.producer, .playlist, .tractor]
  entries : ∀ p ∈ d.mainBin :: d.playlists, ∀ e ∈ p.entries,
    d.Declares e.producer [.producer, .tractor]
  tracks : ∀ t ∈ d.tractor.tracks, d.Declares t [.producer, .playlist]
  transitions : ∀ tr ∈ d.tractor.transitions, ∀ i ∈ [tr.aTrack, tr.bTrack],
    0 ≤ i ∧ i < d.tractor.tracks.length

theorem find?_key_eq_some {α : Type} {l : List α} {key : α → String} {x : α}
    (hnodup : (l.map key).Nodup) (hx : x ∈ l) : l.find? (fun y => key y == key x) = some x := by
  induction l with
  | nil => simp at hx
  | cons y ys ih =>
    obtain ⟨hnew, hrest⟩ := List.nodup_cons.mp hnodup
    rcases List.mem_cons.mp hx with rfl | hx
    · simp
    · have hne : key y ≠ key x := fun he => hnew (he ▸ List.mem_map_of_mem hx)
      simp [hne, ih hrest hx]

theorem map_id_producers_sublist (d : Document) :
    List.Sublist (d.producers.map (·.id)) (d.declarations.map Prod.fst) := by
  have hproducers : ∀ ps : List Producer, List.Sublist (ps.map (·.id))
      (ps.flatMap fun p => p.id :: p.filters.map (·.id)) := by
    intro ps
    induction ps with
    | nil => simp
    | cons p ps ih =>
      simp only [List.map_cons, List.flatMap_cons, List.cons_append]
      exact (ih.trans (List.sublist_append_right _ _)).cons_cons p.id
  simp only [declarations, List.map_append, List.map_cons, List.map_flatMap, List.map_map,
    Function.comp_def, List.cons_append]
  exact ((hproducers d.producers).trans (List.sublist_append_left _ _)).trans
    (List.sublist_append_left _ _) |>.cons _

theorem bin_playlists_sublist (d : Document) :
    List.Sublist (d.mainBin.id :: d.playlists.map (·.id)) (d.declarations.map Prod.fst) := by
  simp only [declarations, List.map_append, List.map_cons, List.map_map, Function.comp_def,
    List.cons_append]
  exact ((List.sublist_append_right _ _).trans (List.sublist_append_left _ _)).cons_cons _

section

variable {d : Document} (h : d.WellFormed)
include h

theorem WellFormed.require_eq_ok {place : Place} {id : String} {allowed : List Kind}
    (hd : d.Declares id allowed) :
    (Registry.mk d.declarations).require place id allowed = .ok () := by
  obtain ⟨k, hk, hmem⟩ := hd
  exact Registry.require_eq_ok h.nodup hmem hk

theorem WellFormed.checkEntries_eq_ok {p : Playlist} (hp : p ∈ d.mainBin :: d.playlists) :
    checkEntries (Registry.mk d.declarations) p = .ok () := by
  rw [checkEntries, forM_eq_ok_iff]
  rintro ⟨e, i⟩ hmem
  exact h.require_eq_ok (h.entries p hp e (List.fst_mem_of_mem_zipIdx hmem))

theorem WellFormed.checkTransition_eq_ok {t : Transition} (ht : t ∈ d.tractor.transitions) :
    checkTransition d.tractor.tracks.length t = .ok () := by
  rw [checkTransition, forM_eq_ok_iff]
  intro i hi
  obtain ⟨hlow, hhigh⟩ := h.transitions t ht i hi
  simp only [ite_eq_right_iff, reduceCtorEq, imp_false, not_or]
  omega

theorem WellFormed.check_eq_ok : d.check = .ok ⟨d.declarations⟩ := by
  have hall : Registry.declareAll {} d.declarations = .ok ⟨d.declarations⟩ :=
    Registry.declareAll_eq_ok (by simpa [Registry.ids] using h.nodup) h.nonempty
  have hentries : (d.mainBin :: d.playlists).forM (checkEntries ⟨d.declarations⟩) = .ok () :=
    forM_eq_ok_iff.mpr fun p hp => h.checkEntries_eq_ok hp
  have htransitions : d.tractor.transitions.forM
      (checkTransition d.tractor.tracks.length) = .ok () :=
    forM_eq_ok_iff.mpr fun t ht => h.checkTransition_eq_ok ht
  simp only [check, hall, except_ok_bind, h.require_eq_ok h.root, hentries]
  rw [(forM_eq_ok_iff (l := d.tractor.tracks.zipIdx)).mpr ?tracks, except_ok_bind, htransitions]
  · rfl
  case tracks =>
    rintro ⟨t, i⟩ hmem
    exact h.require_eq_ok (h.tracks t (List.fst_mem_of_mem_zipIdx hmem))

theorem WellFormed.producer?_eq_some {p : Producer} (hp : p ∈ d.producers) :
    d.producer? p.id = some p :=
  find?_key_eq_some ((map_id_producers_sublist d).nodup h.nodup) hp

theorem WellFormed.playlist?_eq_some {p : Playlist} (hp : p ∈ d.playlists) :
    d.playlist? p.id = some p := by
  obtain ⟨hbin, hlists⟩ := List.nodup_cons.mp ((bin_playlists_sublist d).nodup h.nodup)
  have hne : d.mainBin.id ≠ p.id := fun he => hbin (he ▸ List.mem_map_of_mem hp)
  simp only [playlist?, hne, if_false]
  exact find?_key_eq_some hlists hp

end

end Document

end KeyedComposite.Composite
