import Mathlib.Data.List.Nodup
import KeyedComposite.Composite.Build
import KeyedComposite.Proofs.Check
import KeyedComposite.Proofs.IdNames

/-! # The assembled composite is well formed

`Builder.assemble` declares, in order: the bin; for each placement its keyed producer with
the colour-select and alpha filters; for each placement its texture producer; the black
producer; the three playlists; the tractor and its four transitions. `keyedNames` lists
these declarations by `Ids.Name`. Since the names differ whenever the placements' numbers
do, and every reference the composite makes is to one of them with a fitting kind, the
composite is well formed as soon as no two placements share a number.
-/
namespace KeyedComposite.Composite

open Ids (Name)

def keyedNames (is : List Nat) : List (Name × Kind) :=
  (Name.mainBin, Kind.playlist) ::
    (is.flatMap fun (i : Nat) => [(Name.hoodie (i : Int), Kind.producer),
      (Name.chroma (i : Int), Kind.filter), (Name.alpha (i : Int), Kind.filter)]) ++
    is.map (fun (i : Nat) => (Name.texture (i : Int), Kind.producer)) ++
    ([(Name.black, Kind.producer), (Name.background, Kind.playlist),
      (Name.textures, Kind.playlist), (Name.keyed, Kind.playlist), (Name.tractor, Kind.tractor),
      (Name.mix 1, Kind.transition), (Name.mix 2, Kind.transition),
      (Name.blend 1, Kind.transition), (Name.blend 2, Kind.transition)] : List (Name × Kind))

theorem mem_keyedNames_hoodie {is : List Nat} {i : Nat} (hi : i ∈ is) :
    (Name.hoodie i, Kind.producer) ∈ keyedNames is := by
  simp only [keyedNames, List.cons_append, List.mem_cons, List.mem_append, List.mem_flatMap,
    List.mem_map]
  exact .inr (.inl (.inl ⟨i, hi, by simp⟩))

theorem mem_keyedNames_texture {is : List Nat} {i : Nat} (hi : i ∈ is) :
    (Name.texture i, Kind.producer) ∈ keyedNames is := by
  simp only [keyedNames, List.cons_append, List.mem_cons, List.mem_append, List.mem_flatMap,
    List.mem_map]
  exact .inr (.inl (.inr ⟨i, hi, rfl⟩))

theorem nodup_keyedNames {is : List Nat} (h : is.Nodup) : ((keyedNames is).map Prod.fst).Nodup := by
  let family := is.flatMap fun (i : Nat) => [Name.hoodie i, .chroma i, .alpha i]
  let texture := is.map fun (i : Nat) => Name.texture i
  let fixed : List Name := [.black, .background, .textures, .keyed, .tractor, .mix 1, .mix 2,
    .blend 1, .blend 2]
  have hnames : (keyedNames is).map Prod.fst = .mainBin :: (family ++ texture ++ fixed) := by
    simp [keyedNames, family, texture, fixed, List.map_flatMap]
  have hfamily : family.Nodup := by
    rw [List.nodup_flatMap]
    refine ⟨fun i _ => by simp, h.imp fun {i j} hij => ?_⟩
    simp only [Function.onFun, List.disjoint_cons_left, List.mem_cons, List.mem_nil_iff,
      List.disjoint_nil_left, reduceCtorEq, Name.hoodie.injEq, Name.chroma.injEq,
      Name.alpha.injEq, or_false, false_or, and_true]
    omega
  have htexture : texture.Nodup :=
    List.Nodup.map (fun i j hij => by injection hij with h; omega) h
  have hnumbered : ∀ a ∈ family ++ texture, ∃ i : Int,
      a = .hoodie i ∨ a = .chroma i ∨ a = .alpha i ∨ a = .texture i := by
    intro a ha
    simp only [family, texture, List.mem_append, List.mem_flatMap, List.mem_map, List.mem_cons,
      List.mem_nil_iff, or_false] at ha
    rcases ha with ⟨i, -, ha | ha | ha⟩ | ⟨i, -, rfl⟩
    · exact ⟨i, .inl ha⟩
    · exact ⟨i, .inr (.inl ha)⟩
    · exact ⟨i, .inr (.inr (.inl ha))⟩
    · exact ⟨i, .inr (.inr (.inr rfl))⟩
  have hft : ∀ a ∈ family, ∀ b ∈ texture, a ≠ b := by
    intro a ha b hb hab
    simp only [family, texture, List.mem_flatMap, List.mem_map, List.mem_cons,
      List.mem_nil_iff, or_false] at ha hb
    obtain ⟨j, -, rfl⟩ := hb
    obtain ⟨i, -, ha | ha | ha⟩ := ha <;> rw [ha] at hab <;> cases hab
  have hfixed : ∀ a ∈ family ++ texture, a ∉ fixed := by
    intro a ha hfix
    obtain ⟨i, rfl | rfl | rfl | rfl⟩ := hnumbered a ha <;> simp [fixed] at hfix
  rw [hnames, List.nodup_cons, List.nodup_append, List.nodup_append]
  refine ⟨?_, ⟨hfamily, htexture, hft⟩, by decide, fun a ha b hb hab => hfixed a ha (hab ▸ hb)⟩
  intro hbin
  rcases List.mem_append.mp hbin with hbin | hbin
  · obtain ⟨i, h | h | h | h⟩ := hnumbered _ hbin <;> cases h
  · exact absurd hbin (by decide)

theorem Name.text_ne_empty (n : Name) : n.text ≠ "" := fun h => by
  have hread := Name.read_text n
  have hempty : Name.read "" = none := by decide
  rw [h, hempty] at hread
  cases hread

namespace Builder

variable (b : Builder) (select : List Keying.Property) (placements : List Placement)
  (total : Int) (textures : List String)

theorem declarations_assemble :
    (b.assemble select placements total textures).declarations =
      (keyedNames (placements.map (·.index))).map fun (n, k) => (n.text, k) := by
  have htex : ∀ path : Placement → String,
      (placements.map fun p => textureProducer p (path p)).flatMap
        (fun p => (p.id, Kind.producer) :: p.filters.map fun f => (f.id, Kind.filter)) =
      placements.map fun p => (Ids.texture p.index, Kind.producer) := by
    intro path
    rw [List.flatMap_map, List.map_eq_flatMap]
    rfl
  simp only [Document.declarations, assemble, List.flatMap_append, htex]
  simp [keyedNames, hoodieProducer, blackProducer, transitions, Name.text, List.flatMap_map,
    List.map_flatMap]

theorem declares_assemble {n : Name} {allowed : List Kind} {k : Kind} (hk : k ∈ allowed)
    (hn : (n, k) ∈ keyedNames (placements.map (·.index))) :
    (b.assemble select placements total textures).Declares n.text allowed :=
  ⟨k, hk, by rw [declarations_assemble]; exact List.mem_map_of_mem (f := fun (n, k) => (n.text, k)) hn⟩

theorem assemble_wellFormed (hidx : (placements.map (·.index)).Nodup) :
    (b.assemble select placements total textures).WellFormed where
  nodup := by
    rw [declarations_assemble, List.map_map]
    have : (Prod.fst ∘ fun (nk : Name × Kind) => (nk.1.text, nk.2)) = Name.text ∘ Prod.fst := rfl
    rw [this, ← List.map_map]
    exact (nodup_keyedNames hidx).map Name.text_injective
  nonempty := by
    rw [declarations_assemble]
    simp only [List.mem_map, Prod.exists]
    rintro _ ⟨n, k, -, rfl⟩
    exact Name.text_ne_empty n
  root := declares_assemble b select placements total textures (n := .mainBin) (k := .playlist)
    (by simp) (by simp [keyedNames])
  entries := by
    intro p hp e he
    simp only [assemble, List.mem_cons, List.mem_nil_iff, or_false] at hp
    rcases hp with rfl | rfl | rfl | rfl
    · simp at he
    · simp only [List.mem_cons, List.mem_nil_iff, or_false] at he
      subst he
      exact declares_assemble b select placements total textures (n := .black) (k := .producer)
        (by simp) (by simp [keyedNames])
    · simp only [List.mem_map] at he
      obtain ⟨q, hq, rfl⟩ := he
      exact declares_assemble b select placements total textures (n := .texture q.index)
        (k := .producer) (by simp) (mem_keyedNames_texture (List.mem_map_of_mem hq))
    · simp only [List.mem_map] at he
      obtain ⟨q, hq, rfl⟩ := he
      exact declares_assemble b select placements total textures (n := .hoodie q.index)
        (k := .producer) (by simp) (mem_keyedNames_hoodie (List.mem_map_of_mem hq))
  tracks := by
    intro t ht
    simp only [assemble, List.mem_cons, List.mem_nil_iff, or_false] at ht
    rcases ht with rfl | rfl | rfl
    · exact declares_assemble b select placements total textures (n := .background)
        (k := .playlist) (by simp) (by simp [keyedNames])
    · exact declares_assemble b select placements total textures (n := .textures)
        (k := .playlist) (by simp) (by simp [keyedNames])
    · exact declares_assemble b select placements total textures (n := .keyed)
        (k := .playlist) (by simp) (by simp [keyedNames])
  transitions := by
    intro tr htr i hi
    simp only [assemble, transitions, List.mem_cons, List.mem_nil_iff, or_false] at htr hi ⊢
    rcases htr with rfl | rfl | rfl | rfl <;> rcases hi with rfl | rfl <;> decide

end Builder

end KeyedComposite.Composite
