import KeyedComposite.Composite.Ids
import KeyedComposite.Proofs.Decimal
import KeyedComposite.Proofs.LockPath
import KeyedComposite.Texture.Generator

/-! # Composite ids tell their elements apart

`Ids.Name` lists what an id of a composite can name: one of the six fixed elements, or a
member of one of the six numbered families at any integer. `Name.read` reads an id back by
its family prefix and the number after it, and it reads the text of every name as that
name. So no two names share an id, whether they are of one family or of two, at every width
of the number and for negative numbers too.

The texture of an interval is written to a file named by its zero-padded number under the
texture directory. That name holds no `/` and is longer than `..`, so cleaning the joined path
keeps it as the last element whatever the directory is, and no two intervals share a file.
-/
namespace KeyedComposite.Ids

/-- What an id of a composite names. -/
inductive Name where
  | mainBin
  | black
  | background
  | textures
  | keyed
  | tractor
  | hoodie (i : Int)
  | texture (i : Int)
  | chroma (i : Int)
  | alpha (i : Int)
  | mix (track : Int)
  | blend (track : Int)
  deriving DecidableEq

namespace Name

def text : Name → String
  | mainBin => Ids.mainBin
  | black => Ids.black
  | background => Ids.background
  | textures => Ids.textures
  | keyed => Ids.keyed
  | tractor => Ids.tractor
  | hoodie i => Ids.hoodie i
  | texture i => Ids.texture i
  | chroma i => Ids.chroma i
  | alpha i => Ids.alpha i
  | mix t => Ids.mix t
  | blend t => Ids.blend t

def after (stem : String) (cs : List Char) : Option (List Char) :=
  if cs.take stem.toList.length = stem.toList then some (cs.drop stem.toList.length) else none

def read (s : String) : Option Name :=
  ((after "hoodie_" s.toList).map (hoodie ∘ signedValue)).or <|
  ((after "texture_" s.toList).map (texture ∘ signedValue)).or <|
  ((after "chroma_" s.toList).map (chroma ∘ signedValue)).or <|
  ((after "alpha_" s.toList).map (alpha ∘ signedValue)).or <|
  ((after "mix" s.toList).map (mix ∘ signedValue)).or <|
  ((after "qtblend" s.toList).map (blend ∘ signedValue)).or <|
  [mainBin, black, background, textures, keyed, tractor].find? (·.text == s)

/-- Every id reads back as the name it was made from. The family prefixes differ within
their first three characters, and none of the fixed ids starts with one of them. -/
theorem read_text (n : Name) : read n.text = some n := by
  cases n with
  | mainBin => decide
  | black => decide
  | background => decide
  | textures => decide
  | keyed => decide
  | tractor => decide
  | hoodie i => simp [read, text, Ids.hoodie, after, signedValue_padded]
  | texture i => simp [read, text, Ids.texture, after, signedValue_padded]
  | chroma i => simp [read, text, Ids.chroma, after, signedValue_padded]
  | alpha i => simp [read, text, Ids.alpha, after, signedValue_padded]
  | mix t => simp [read, text, Ids.mix, after, decimal_eq_padded_zero, signedValue_padded]
  | blend t => simp [read, text, Ids.blend, after, decimal_eq_padded_zero, signedValue_padded]

theorem text_injective : Function.Injective text := fun a b h =>
  Option.some.inj (by rw [← read_text a, ← read_text b, h])

@[simp] theorem text_inj {a b : Name} : a.text = b.text ↔ a = b :=
  text_injective.eq_iff

end Name

end KeyedComposite.Ids

namespace KeyedComposite

theorem mem_padded {w : Nat} {i : Int} {c : Char} (h : c ∈ (padded w i).toList) :
    c = '-' ∨ c.isDigit := by
  have hdigits : ∀ v, c ∈ (padLeft v '0' (natDigits i.natAbs)).toList → c.isDigit := by
    intro v hv
    rw [padLeft, String.toList_append, String.toList_ofList] at hv
    exact isDigit_of_mem_zeros_append (fun _ => isDigit_of_mem_natDigits) hv
  unfold padded at h
  split at h
  · rw [String.toList_append] at h
    rcases List.mem_append.mp h with hminus | hv
    · exact .inl (by simpa using hminus)
    · exact .inr (hdigits _ hv)
  · exact .inr (hdigits _ h)

theorem slash_not_mem_padded (w : Nat) (i : Int) : '/' ∉ (padded w i).toList := fun h => by
  rcases mem_padded h with h | h <;> revert h <;> decide

namespace PathName

/-- A path under a nonempty directory, the last element kept, cleans to the directory's
stack with that element on top. -/
theorem clean_append_slash {t : String} (ht : '/' ∉ t.toList) (hlen : 2 < t.length)
    {q : String} (hq : q ≠ "") :
    clean (q ++ "/" ++ t) =
      render (isAbs q) (t :: (elements q).foldl (resolveStep (isAbs q)) []).reverse := by
  have hrooted : isAbs (q ++ "/" ++ t) = isAbs q := by
    rw [String.append_assoc]
    exact isAbs_append_of_ne_empty hq _
  rw [clean_eq_render, hrooted, elements_append_slash ht, List.foldl_append, List.foldl_cons,
    List.foldl_nil, resolveStep_long hlen]

theorem kept_of_long {t : String} (ht : '/' ∉ t.toList) (hlen : 2 < t.length) : Kept t := by
  refine ⟨?_, ?_, ht⟩ <;> rintro rfl <;> revert hlen <;> decide

theorem clean_of_element {t : String} (ht : '/' ∉ t.toList) (hlen : 2 < t.length) :
    clean t = t := by
  have helements : elements t = [t] := by
    simp [elements, List.splitOn_eq_singleton ht]
  have hrelative : isAbs t = false := by
    rw [← @String.empty_append t, isAbs_append ht]
    decide
  rw [clean_eq_render, helements, hrelative, List.foldl_cons, List.foldl_nil, resolveStep_long hlen]
  simp [render, (kept_of_long ht hlen).1]

theorem join_pair {dir t : String} (hdir : dir ≠ "") (ht : t ≠ "") :
    join [dir, t] = clean (dir ++ "/" ++ t) := by
  simp [join, hdir, ht, String.intercalate_cons_cons]

theorem join_empty_pair {t : String} (ht : t ≠ "") : join ["", t] = clean t := by
  simp [join, ht]

/-- Under one directory, names without `/` longer than two characters join to different
paths. -/
theorem join_pair_injective {dir t t' : String} (ht : '/' ∉ t.toList) (ht' : '/' ∉ t'.toList)
    (hlen : 2 < t.length) (hlen' : 2 < t'.length) (h : join [dir, t] = join [dir, t']) :
    t = t' := by
  have hne := (kept_of_long ht hlen).1
  have hne' := (kept_of_long ht' hlen').1
  by_cases hdir : dir = ""
  · rwa [hdir, join_empty_pair hne, join_empty_pair hne', clean_of_element ht hlen,
      clean_of_element ht' hlen'] at h
  · rw [join_pair hdir hne, join_pair hdir hne', clean_append_slash ht hlen hdir,
      clean_append_slash ht' hlen' hdir] at h
    have hstack := kept_foldl_resolveStep (isAbs dir) (elements dir) [] (by simp)
      (fun e he => slash_not_mem_elements he)
    have hkept : ∀ {s : String}, '/' ∉ s.toList → 2 < s.length →
        ∀ x ∈ (s :: (elements dir).foldl (resolveStep (isAbs dir)) []).reverse, Kept x := by
      intro s hs hslen x hx
      rcases List.mem_cons.mp (List.mem_reverse.mp hx) with rfl | hx
      · exact kept_of_long hs hslen
      · exact hstack x hx
    by_contra htt
    exact render_ne (hkept ht hlen) (hkept ht' hlen') (by simp) (by simpa using htt) h

end PathName

namespace Texture

theorem outputPath_injective (dir : String) : Function.Injective (outputPath dir) := by
  intro i j h
  have hname : ∀ k : Int, '/' ∉ ("texture_" ++ padded 2 k ++ ".mp4").toList := fun k => by
    simp only [String.toList_append, List.mem_append, not_or]
    exact ⟨⟨by decide, slash_not_mem_padded 2 k⟩, by decide⟩
  have hlen : ∀ k : Int, 2 < ("texture_" ++ padded 2 k ++ ".mp4").length := fun k => by
    simp only [String.length_append]
    have : "texture_".length = 8 := rfl
    omega
  have hij := PathName.join_pair_injective (hname i) (hname j) (hlen i) (hlen j) h
  exact padded_injective 2 ((String.append_right_inj _).mp ((String.append_left_inj _).mp hij))

end Texture

namespace Ids

/-- No two things a composite names share an id: each numbered family is injective at
every integer, at every width of the number and for negative numbers, the families are
pairwise disjoint and disjoint from the fixed ids; and under one texture directory no two
intervals share a texture file. -/
theorem ids_and_texture_files_never_collide :
    Function.Injective Name.text ∧ ∀ dir, Function.Injective (Texture.outputPath dir) :=
  ⟨Name.text_injective, Texture.outputPath_injective⟩

end Ids

end KeyedComposite
