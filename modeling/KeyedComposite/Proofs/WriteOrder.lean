import Mathlib
import KeyedComposite.Proofs.Build
import KeyedComposite.Composite.Encode

/-! # Declarations come before their uses in a written composite

A renderer reads a composite's elements in writing order, each start tag before the
elements inside it, and resolves a playlist entry's or a track's `producer` when it meets
it; so every id an entry or a track names must be declared, by the `id` of a producer or
playlist element, earlier in that order (`DeclaresBeforeUse`).

The writer puts the profile and the bin first, then all producers, all playlists and last
the tractor. Whether references point backwards is then a matter of the composite's shape
(`Layered`): the bin plays nothing, playlist entries play producers, and tracks are
playlists. A built composite has that shape. The registry check alone does not give it:
it accepts a bin whose entries play producers, or an entry that plays the tractor.
-/
namespace KeyedComposite

namespace Markup.Element

def name : Element → String
  | .mk n _ _ _ => n

def attr? (e : Element) (key : String) : Option String :=
  match e with
  | .mk _ attrs _ _ => attrs.lookup key

mutual
def elements : Element → List Element
  | .mk n a t cs => .mk n a t cs :: elementsAll cs

def elementsAll : List Element → List Element
  | [] => []
  | c :: cs => elements c ++ elementsAll cs
end

theorem elementsAll_eq_flatMap (cs : List Element) : elementsAll cs = cs.flatMap elements := by
  induction cs with
  | nil => simp [elementsAll]
  | cons c cs ih => simp [elementsAll, ih]

@[simp] theorem elements_mk (n : String) (a : List (String × String)) (t : String)
    (cs : List Element) : (Element.mk n a t cs).elements = .mk n a t cs :: cs.flatMap elements := by
  rw [elements, elementsAll_eq_flatMap]

theorem elements_eq_cons (e : Element) : ∃ inner, e.elements = e :: inner := by
  cases e
  exact ⟨_, elements_mk _ _ _ _⟩

theorem mem_elements_self (e : Element) : e ∈ e.elements := by
  obtain ⟨inner, h⟩ := elements_eq_cons e
  rw [h]
  exact List.mem_cons_self

def declares (e : Element) : Option String :=
  if e.name = "producer" ∨ e.name = "playlist" then e.attr? "id" else none

def refersTo (e : Element) : Option String :=
  if e.name = "entry" ∨ e.name = "track" then e.attr? "producer" else none

end Markup.Element

open Markup Element

/-- Every id that an element of the sequence names is declared by an element strictly
before it. -/
def DeclaresBeforeUse (es : List Element) : Prop :=
  ∀ j (hj : j < es.length) id, es[j].refersTo = some id →
    ∃ i, ∃ hij : i < j, es[i].declares = some id

theorem declaresBeforeUse_of_refersTo_eq_none {es : List Element}
    (h : ∀ e ∈ es, e.refersTo = none) : DeclaresBeforeUse es := fun j hj id hid => by
  rw [h _ (List.getElem_mem hj)] at hid
  cases hid

/-- A sequence whose own references point backwards stays so when elements follow whose
references are all declared in it. -/
theorem DeclaresBeforeUse.append {es : List Element} (hes : DeclaresBeforeUse es)
    (more : List Element)
    (hmore : ∀ e ∈ more, ∀ id, e.refersTo = some id → ∃ d ∈ es, d.declares = some id) :
    DeclaresBeforeUse (es ++ more) := by
  intro j hj id hid
  by_cases hjl : j < es.length
  · rw [List.getElem_append_left hjl] at hid
    obtain ⟨i, hij, hi⟩ := hes j hjl id hid
    exact ⟨i, hij, by rwa [List.getElem_append_left (by omega)]⟩
  · rw [List.getElem_append_right (by omega)] at hid
    obtain ⟨d, hd, hdecl⟩ := hmore _ (List.getElem_mem _) id hid
    obtain ⟨i, hi, rfl⟩ := List.getElem_of_mem hd
    exact ⟨i, by omega, by rwa [List.getElem_append_left hi]⟩

namespace Composite

theorem refersTo_property_elements (p : Property) :
    ∀ e ∈ p.toElement.elements, e.refersTo = none := by
  simp [Property.toElement, refersTo, name]

theorem refersTo_filter_elements (f : Filter) :
    ∀ e ∈ f.toElement.elements, e.refersTo = none := by
  simp only [Filter.toElement, Element.parent, elements_mk, List.mem_cons, List.mem_flatMap,
    List.mem_map]
  rintro e (rfl | ⟨_, ⟨p, -, rfl⟩, he⟩)
  · simp [refersTo, name]
  · exact refersTo_property_elements p e he

theorem refersTo_producer_elements (p : Producer) :
    ∀ e ∈ p.toElement.elements, e.refersTo = none := by
  simp only [Producer.toElement, Element.parent, elements_mk, List.mem_cons, List.mem_flatMap,
    List.mem_append, List.mem_map]
  rintro e (rfl | ⟨_, ⟨q, -, rfl⟩ | ⟨f, -, rfl⟩, he⟩)
  · simp [refersTo, name]
  · exact refersTo_property_elements q e he
  · exact refersTo_filter_elements f e he

theorem declares_producer (p : Producer) : p.toElement.declares = some p.id := by
  simp [Producer.toElement, Element.parent, declares, name, attr?]

theorem declares_playlist (p : Playlist) : p.toElement.declares = some p.id := by
  simp [Playlist.toElement, Element.parent, declares, name, attr?]

theorem refersTo_playlist_elements (p : Playlist) :
    ∀ e ∈ p.toElement.elements, ∀ id, e.refersTo = some id →
      ∃ en ∈ p.entries, en.producer = id := by
  simp only [Playlist.toElement, Element.parent, elements_mk, List.mem_cons, List.mem_flatMap,
    List.mem_append, List.mem_map]
  rintro e (rfl | ⟨_, ⟨q, -, rfl⟩ | ⟨en, hen, rfl⟩, he⟩) id hid
  · simp [refersTo, name] at hid
  · rw [refersTo_property_elements q e he] at hid
    cases hid
  · simp only [Entry.toElement, Element.empty, elements_mk, List.flatMap_nil,
      List.mem_singleton] at he
    subst he
    simp only [refersTo, name, attr?, List.lookup, beq_self_eq_true] at hid
    exact ⟨en, hen, by simpa using hid⟩

theorem refersTo_tractor_elements (t : Tractor) :
    ∀ e ∈ t.toElement.elements, ∀ id, e.refersTo = some id → id ∈ t.tracks := by
  simp only [Tractor.toElement, Element.parent, elements_mk, List.flatMap_cons, List.mem_cons,
    List.mem_append, List.mem_flatMap, List.mem_map]
  rintro e (rfl | (rfl | ⟨_, ⟨track, htrack, rfl⟩, he⟩) | ⟨_, ⟨tr, -, rfl⟩, he⟩) id
    hid
  · simp [refersTo, name] at hid
  · simp [refersTo, name] at hid
  · simp only [Element.empty, elements_mk, List.flatMap_nil, List.mem_singleton] at he
    subst he
    simp only [refersTo, name, attr?, List.lookup, beq_self_eq_true] at hid
    simpa [← Option.some_inj.mp hid] using htrack
  · simp only [Transition.toElement, Element.empty, elements_mk, List.flatMap_nil,
      List.mem_singleton] at he
    subst he
    simp [refersTo, name] at hid

/-- A composite whose references all point backwards in writing order: the bin plays
nothing, every playlist entry plays a producer, and every track is a playlist. -/
structure Document.Layered (d : Document) : Prop where
  bin : d.mainBin.entries = []
  entries : ∀ p ∈ d.playlists, ∀ e ∈ p.entries, ∃ q ∈ d.producers, q.id = e.producer
  tracks : ∀ t ∈ d.tractor.tracks, ∃ p ∈ d.playlists, p.id = t

namespace Document

/-- The written elements: the root, the profile, the bin, the producers, the playlists and
the tractor, each with what is inside it. -/
theorem toElement_elements (d : Document) :
    d.toElement.elements = d.toElement :: d.profile.toElement ::
      (d.mainBin.toElement.elements ++ d.producers.flatMap (·.toElement.elements) ++
        d.playlists.flatMap (·.toElement.elements) ++ d.tractor.toElement.elements) := by
  simp [toElement, Element.parent, Profile.toElement, Element.empty, List.flatMap_map]

theorem Layered.declaresBeforeUse {d : Document} (h : d.Layered) :
    DeclaresBeforeUse d.toElement.elements := by
  rw [toElement_elements]
  have hbin : ∀ e ∈ d.mainBin.toElement.elements, e.refersTo = none := by
    intro e he
    cases hr : e.refersTo with
    | none => rfl
    | some id =>
      obtain ⟨en, hen, -⟩ := refersTo_playlist_elements _ e he id hr
      rw [h.bin] at hen
      cases hen
  have hhead : DeclaresBeforeUse (d.toElement :: d.profile.toElement ::
      (d.mainBin.toElement.elements ++ d.producers.flatMap (·.toElement.elements))) := by
    apply declaresBeforeUse_of_refersTo_eq_none
    simp only [List.mem_cons, List.mem_append, List.mem_flatMap]
    rintro e (rfl | rfl | he | ⟨p, -, he⟩)
    · simp [toElement, Element.parent, refersTo, Element.name]
    · simp [Profile.toElement, Element.empty, refersTo, Element.name]
    · exact hbin e he
    · exact refersTo_producer_elements p e he
  have hplaylists := hhead.append (d.playlists.flatMap (·.toElement.elements)) <| by
    simp only [List.mem_flatMap]
    rintro e ⟨p, hp, he⟩ id hid
    obtain ⟨en, hen, rfl⟩ := refersTo_playlist_elements p e he id hid
    obtain ⟨q, hq, hid⟩ := h.entries p hp en hen
    refine ⟨q.toElement, ?_, by rw [declares_producer, hid]⟩
    exact List.mem_cons_of_mem _ (List.mem_cons_of_mem _
      (List.mem_append_right _ (List.mem_flatMap.mpr ⟨q, hq, mem_elements_self _⟩)))
  have htractor := hplaylists.append d.tractor.toElement.elements <| by
    rintro e he id hid
    obtain ⟨p, hp, rfl⟩ := h.tracks id (refersTo_tractor_elements _ e he id hid)
    exact ⟨p.toElement,
      List.mem_append_right _ (List.mem_flatMap.mpr ⟨p, hp, mem_elements_self _⟩),
      declares_playlist p⟩
  simpa only [List.cons_append, List.append_assoc] using htractor

end Document

namespace Builder

variable (b : Builder) (select : List Keying.Property) (ivs : List Interval)
  (textures : List String)

theorem composite_layered : (b.composite select ivs textures).Layered where
  bin := rfl
  entries := by
    simp only [composite, assemble, List.mem_cons, List.mem_nil_iff, or_false,
      List.mem_append, List.mem_map]
    rintro p (rfl | rfl | rfl) e he <;> simp only [List.mem_singleton, List.mem_map] at he
    · subst he
      exact ⟨_, .inr rfl, rfl⟩
    · obtain ⟨q, hq, rfl⟩ := he
      exact ⟨_, .inl (.inr ⟨q, hq, rfl⟩), rfl⟩
    · obtain ⟨q, hq, rfl⟩ := he
      exact ⟨_, .inl (.inl ⟨q, hq, rfl⟩), rfl⟩
  tracks := by
    simp only [composite, assemble, List.mem_cons, List.mem_nil_iff, or_false]
    rintro t (rfl | rfl | rfl) <;> simp

/-- In a built composite, as written, every id that a playlist entry or a track names is
declared by a producer or playlist written before it; the root names the bin, which is
written first after the profile. -/
theorem build_declares_before_use {doc : Document} (h : b.build ivs textures = .ok doc) :
    DeclaresBeforeUse doc.toElement.elements ∧
    doc.toElement.attr? "producer" = some "main_bin" ∧
    doc.toElement.elements[1]?.map Element.name = some "profile" ∧
    doc.toElement.elements[2]?.bind Element.declares = some "main_bin" := by
  obtain ⟨-, select, -, rfl⟩ := (build_eq_ok_iff b ivs textures).mp h
  obtain ⟨inner, hbin⟩ := elements_eq_cons (b.composite select ivs textures).mainBin.toElement
  refine ⟨(composite_layered b select ivs textures).declaresBeforeUse, rfl, ?_, ?_⟩
  · rw [Document.toElement_elements]
    rfl
  · rw [Document.toElement_elements, hbin]
    simp only [List.cons_append, List.getElem?_cons_succ, List.getElem?_cons_zero,
      Option.bind_some, declares_playlist]
    rfl

/-- A composite built from two clips at the standard rate declares before use. -/
theorem build_declares_before_use_two_clips :
    let b : Builder := { format := .standard, source := "clip.mov", keying := .standard }
    let ivs : List Interval := [{ start := 2, duration := 1 }, { start := 1, duration := 1 / 2 }]
    let doc := (b.build ivs ["a.mp4"]).toOption.getD {}
    b.build ivs ["a.mp4"] = .ok doc ∧ DeclaresBeforeUse doc.toElement.elements := by
  intro b ivs doc
  have h := except_eq_ok_getD {} (show (b.build ivs ["a.mp4"]).isOk = true by decide +kernel)
  exact ⟨h, (build_declares_before_use b ivs ["a.mp4"] h).1⟩

end Builder

end Composite

end KeyedComposite
