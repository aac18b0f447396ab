import Mathlib
import KeyedComposite.Proofs.Check

/-! # Declaring ids one call after another

A registry serves callers that declare ids one at a time and, when a call is refused, go on
with the registry they had. Over every sequence of calls from the empty registry:

* a call is refused exactly when its id is empty (a dangling reference) or was declared by an
  earlier accepted call (a duplicate, whatever the two kinds);
* a refused call changes nothing;
* the registry at the end lists the ids of the accepted calls in call order, each once, and
  looking an id up gives the kind its accepted call declared, and nothing for any other id.

The registry is one list of ids with their kinds, which both the ordered ids and the lookup
read; what keeps the two views in step is that no id is listed twice.
-/
namespace KeyedComposite.Composite

namespace Registry

@[simp] theorem ids_mk (entries : List (String × Kind)) :
    (Registry.mk entries).ids = entries.map Prod.fst := rfl

theorem lookup?_eq_none_iff {r : Registry} {id : String} : r.lookup? id = none ↔ id ∉ r.ids := by
  simp only [lookup?, List.lookup_eq_none_iff, ids, List.mem_map, not_exists, not_and,
    bne_iff_ne, ne_eq]
  exact ⟨fun h p hp hid => h p hp hid.symm, fun h p hp hid => h p hp hid.symm⟩

theorem mem_entries_of_lookup?_eq_some {r : Registry} {id : String} {k : Kind}
    (h : r.lookup? id = some k) : (id, k) ∈ r.entries := by
  obtain ⟨l₁, l₂, hl, -⟩ := List.lookup_eq_some_iff.mp h
  simp [hl]

theorem lookup?_eq_some_iff {r : Registry} {id : String} {k : Kind} (hnodup : r.ids.Nodup) :
    r.lookup? id = some k ↔ (id, k) ∈ r.entries :=
  ⟨mem_entries_of_lookup?_eq_some, lookup?_eq_some hnodup⟩

theorem declare_empty (r : Registry) (k : Kind) : r.declare "" k = .error (.emptyId k) := by
  simp [declare]

theorem declare_eq_duplicateId {r : Registry} {id : String} {p k : Kind} (hid : id ≠ "")
    (hp : r.lookup? id = some p) : r.declare id k = .error (.duplicateId id p k) := by
  simp [declare, hid, hp]

theorem declare_eq_ok_iff {r r' : Registry} {id : String} {k : Kind} :
    r.declare id k = .ok r' ↔ id ≠ "" ∧ id ∉ r.ids ∧ r' = ⟨r.entries ++ [(id, k)]⟩ := by
  by_cases hid : id = ""
  · simp [hid, declare_empty]
  by_cases hnew : id ∈ r.ids
  · obtain ⟨p, hp⟩ := Option.ne_none_iff_exists'.mp (mt lookup?_eq_none_iff.mp (not_not.mpr hnew))
    simp [hnew, declare_eq_duplicateId hid hp]
  · rw [declare_eq_ok hid hnew]
    simp [hid, hnew, eq_comm]

/-- A refused declaration is a dangling reference for the empty id and a duplicate for any
other. -/
theorem failureClass_of_declare_eq_error {r : Registry} {id : String} {k : Kind}
    {e : CompositeError} (h : r.declare id k = .error e) :
    e.failureClass = if id = "" then .danglingReference else .duplicateId := by
  by_cases hid : id = ""
  · subst hid
    rw [declare_empty] at h
    cases h
    rfl
  · cases hp : r.lookup? id with
    | none => simp [declare, hid, hp] at h
    | some p =>
      rw [declare_eq_duplicateId hid hp] at h
      cases h
      simp [hid, CompositeError.failureClass]

/-- One call as a caller holding a registry sees it: the registry it holds afterwards and the
refusal, if any. A refused call leaves the caller with the registry it had. -/
def call (r : Registry) (id : String) (k : Kind) : Registry × Option CompositeError :=
  match r.declare id k with
  | .ok r' => (r', none)
  | .error e => (r, some e)

def declareEach (r : Registry) : List (String × Kind) → Registry × List (Option CompositeError)
  | [] => (r, [])
  | c :: rest =>
    match r.call c.1 c.2 with
    | (r', refusal) =>
      match r'.declareEach rest with
      | (s, refusals) => (s, refusal :: refusals)

def accepted (calls : List (String × Kind)) (refusals : List (Option CompositeError)) :
    List (String × Kind) :=
  ((calls.zip refusals).filter (fun c => c.2.isNone)).map Prod.fst

theorem call_eq_of_ok {r r' : Registry} {id : String} {k : Kind} (h : r.declare id k = .ok r') :
    r.call id k = (r', none) := by
  simp [call, h]

theorem call_eq_of_error {r : Registry} {id : String} {k : Kind} {e : CompositeError}
    (h : r.declare id k = .error e) : r.call id k = (r, some e) := by
  simp [call, h]

theorem call_spec (r : Registry) (id : String) (k : Kind) :
    ((r.call id k).2 = none ↔ id ≠ "" ∧ id ∉ r.ids) ∧
    (r.call id k).1 = if (r.call id k).2 = none then ⟨r.entries ++ [(id, k)]⟩ else r := by
  cases h : r.declare id k with
  | ok r' =>
    obtain ⟨hid, hnew, rfl⟩ := declare_eq_ok_iff.mp h
    simp [call_eq_of_ok h, hid, hnew]
  | error e =>
    have hrefused : ¬ (id ≠ "" ∧ id ∉ r.ids) := fun hfresh => by
      rw [declare_eq_ok hfresh.1 hfresh.2] at h
      cases h
    simp [call_eq_of_error h, hrefused]

theorem call_snd_eq_some {r : Registry} {id : String} {k : Kind} {e : CompositeError} :
    (r.call id k).2 = some e ↔ r.declare id k = .error e := by
  cases h : r.declare id k with
  | ok r' => simp [call_eq_of_ok h]
  | error e' => simp [call_eq_of_error h]

theorem declareEach_cons (r : Registry) (c : String × Kind) (rest : List (String × Kind)) :
    r.declareEach (c :: rest) =
      (((r.call c.1 c.2).1.declareEach rest).1,
        (r.call c.1 c.2).2 :: ((r.call c.1 c.2).1.declareEach rest).2) := rfl

@[simp] theorem length_declareEach (r : Registry) (calls : List (String × Kind)) :
    (r.declareEach calls).2.length = calls.length := by
  induction calls generalizing r with
  | nil => rfl
  | cons c rest ih => simp [declareEach_cons, ih]

theorem declareEach_append (r : Registry) (pre post : List (String × Kind)) :
    r.declareEach (pre ++ post) =
      (((r.declareEach pre).1.declareEach post).1,
        (r.declareEach pre).2 ++ ((r.declareEach pre).1.declareEach post).2) := by
  induction pre generalizing r with
  | nil => rfl
  | cons c rest ih => simp [declareEach_cons, ih]

theorem declareEach_fst (r : Registry) (calls : List (String × Kind)) :
    (r.declareEach calls).1 = ⟨r.entries ++ accepted calls (r.declareEach calls).2⟩ := by
  induction calls generalizing r with
  | nil => simp [declareEach, accepted]
  | cons c rest ih =>
    obtain ⟨haccept, hnext⟩ := call_spec r c.1 c.2
    rw [declareEach_cons, ih]
    by_cases hc : (r.call c.1 c.2).2 = none
    · simp [hnext, hc, accepted]
    · simp [hnext, hc, accepted, Option.isNone_iff_eq_none]

theorem nodup_ids_declareEach {r : Registry} (hnodup : r.ids.Nodup) (calls : List (String × Kind)) :
    (r.declareEach calls).1.ids.Nodup := by
  induction calls generalizing r with
  | nil => exact hnodup
  | cons c rest ih =>
    rw [declareEach_cons]
    apply ih
    obtain ⟨haccept, hnext⟩ := call_spec r c.1 c.2
    by_cases hc : (r.call c.1 c.2).2 = none
    · have hnew := (haccept.mp hc).2
      rw [hnext, if_pos hc]
      rw [ids_mk, List.map_append]
      refine List.nodup_append.mpr ⟨hnodup, List.nodup_singleton _, ?_⟩
      intro a ha b hb hab
      simp only [List.map_cons, List.map_nil, List.mem_singleton] at hb
      exact hnew (by rwa [hab, hb] at ha)
    · rwa [hnext, if_neg hc]

theorem accepted_of_length_eq {pre : List (String × Kind)} {outs rest : List (Option CompositeError)}
    (hlen : outs.length = pre.length) : accepted pre (outs ++ rest) = accepted pre outs := by
  have hzip : pre.zip (outs ++ rest) = pre.zip outs := by
    simpa using @List.zip_append _ _ pre [] outs rest hlen.symm
  simp [accepted, hzip]

theorem accepted_declareEach_append (r : Registry) (pre rest : List (String × Kind)) :
    accepted pre (r.declareEach (pre ++ rest)).2 = accepted pre (r.declareEach pre).2 := by
  rw [declareEach_append]
  exact accepted_of_length_eq (length_declareEach _ _)

theorem declareEach_empty_fst (calls : List (String × Kind)) :
    (Registry.declareEach {} calls).1 = ⟨accepted calls (Registry.declareEach {} calls).2⟩ := by
  simpa using declareEach_fst {} calls

theorem ids_declareEach_empty (calls : List (String × Kind)) :
    (Registry.declareEach {} calls).1.ids =
      (accepted calls (Registry.declareEach {} calls).2).map Prod.fst := by
  rw [declareEach_empty_fst]
  rfl

theorem getElem?_declareEach_append (r : Registry) (pre : List (String × Kind)) (id : String)
    (k : Kind) (post : List (String × Kind)) :
    (r.declareEach (pre ++ (id, k) :: post)).2[pre.length]? =
      some ((r.declareEach pre).1.call id k).2 := by
  rw [declareEach_append, declareEach_cons, List.getElem?_append_right (by simp)]
  simp

theorem declareEach_append_singleton_fst (r : Registry) (pre : List (String × Kind)) (id : String)
    (k : Kind) : (r.declareEach (pre ++ [(id, k)])).1 = ((r.declareEach pre).1.call id k).1 := by
  rw [declareEach_append, declareEach_cons]
  rfl

/-- Every sequence of calls from the empty registry. Each call is refused exactly when its id
is empty or was declared by an earlier accepted call, whatever the kinds; a refusal is a
dangling reference for the empty id and a duplicate for any other, and leaves the registry as
it was. At the end the registry lists the ids of the accepted calls in call order, each once;
it looks each of them up as the kind its accepted call declared, and every other id as
absent. -/
theorem declare_sequence_keeps_views_in_step (calls : List (String × Kind)) :
    (Registry.declareEach {} calls).2.length = calls.length ∧
    (∀ pre id k post, calls = pre ++ (id, k) :: post →
      ((Registry.declareEach {} calls).2[pre.length]? = some none ↔
        id ≠ "" ∧ id ∉ (accepted pre (Registry.declareEach {} calls).2).map Prod.fst) ∧
      ∀ e, (Registry.declareEach {} calls).2[pre.length]? = some (some e) →
        e.failureClass = (if id = "" then .danglingReference else .duplicateId) ∧
        (Registry.declareEach {} (pre ++ [(id, k)])).1 = (Registry.declareEach {} pre).1) ∧
    (Registry.declareEach {} calls).1.ids =
      (accepted calls (Registry.declareEach {} calls).2).map Prod.fst ∧
    (Registry.declareEach {} calls).1.ids.Nodup ∧
    (∀ id k, (Registry.declareEach {} calls).1.lookup? id = some k ↔
      (id, k) ∈ accepted calls (Registry.declareEach {} calls).2) ∧
    ∀ id, (Registry.declareEach {} calls).1.lookup? id = none ↔
      id ∉ (accepted calls (Registry.declareEach {} calls).2).map Prod.fst := by
  have hnodup := nodup_ids_declareEach (r := {}) List.nodup_nil calls
  refine ⟨length_declareEach _ _, ?_, ids_declareEach_empty calls, hnodup, ?_, ?_⟩
  · intro pre id k post hsplit
    subst hsplit
    obtain ⟨haccept, hnext⟩ := call_spec (Registry.declareEach {} pre).1 id k
    rw [getElem?_declareEach_append, accepted_declareEach_append, ← ids_declareEach_empty,
      Option.some_inj]
    refine ⟨haccept, fun e he => ⟨?_, ?_⟩⟩
    · rw [Option.some_inj] at he
      exact failureClass_of_declare_eq_error (call_snd_eq_some.mp he)
    · rw [Option.some_inj] at he
      rw [declareEach_append_singleton_fst, hnext, if_neg (by simp [he])]
  · intro id k
    rw [lookup?_eq_some_iff hnodup, declareEach_empty_fst]
  · intro id
    rw [lookup?_eq_none_iff, ids_declareEach_empty]

example : Registry.declareEach {} [("main_bin", .playlist), ("", .filter), ("main_bin", .producer)] =
    (⟨[("main_bin", .playlist)]⟩,
      [none, some (.emptyId .filter), some (.duplicateId "main_bin" .playlist .producer)]) :=
  rfl

end Registry

end KeyedComposite.Composite
