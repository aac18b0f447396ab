import KeyedComposite.Proofs.TimeText
import KeyedComposite.Proofs.LockPath
import KeyedComposite.Settings.Check

/-! # Settings in normal form

Normalizing trims texts and expands paths. A trimmed text has no blank at either end
(`Unpadded`), and trimming an unpadded text changes nothing, so trimming twice is trimming once.

An expanded path is empty or a clean absolute path, when the working directory is absolute:
cleaning an absolute path twice is cleaning it once, and never lengthens it. Expanding an
expanded path again therefore keeps it exactly when it does not end in a blank. Expansion trims
before it cleans, and cleaning can bring a blank to the end (`x /` cleans to `x `), so a path
setting can change when settings are normalized a second time. Every other field of normalized
settings comes back as it is, for texts in ASCII, where lowering keeps blanks apart and does
nothing the second time (`finalize_finalize_eq_iff`).
-/
namespace KeyedComposite

namespace Blank

def Unpadded (cs : List Char) : Prop :=
  (∀ c ∈ cs.head?, isBlank c = false) ∧ ∀ c ∈ cs.getLast?, isBlank c = false

theorem dropEnd_eq_rdropWhile (p : Char → Bool) (cs : List Char) :
    dropEnd p cs = cs.rdropWhile p := rfl

theorem unpadded_trim (s : String) : Unpadded (trim s).toList := by
  rw [trim, String.toList_ofList, dropEnd_eq_rdropWhile]
  constructor
  · intro c hc
    rw [Option.mem_def] at hc
    have hne : (s.toList.dropWhile isBlank).rdropWhile isBlank ≠ [] := by
      rintro h
      simp [h] at hc
    obtain ⟨rest, hrest⟩ := List.rdropWhile_prefix (p := isBlank) (l := s.toList.dropWhile isBlank)
    have hhead := List.head?_dropWhile_not isBlank s.toList
    rw [← hrest, List.head?_append_of_ne_nil _ hne, hc] at hhead
    exact hhead
  · intro c hc
    have hne : (s.toList.dropWhile isBlank).rdropWhile isBlank ≠ [] := by
      rintro h
      simp [h] at hc
    have hlast := List.rdropWhile_last_not isBlank _ hne
    rw [List.getLast?_eq_some_getLast hne] at hc
    cases hc
    simpa using hlast

theorem trim_of_unpadded {t : String} (h : Unpadded t.toList) : trim t = t := by
  rw [trim_eq (l := []) (r := []) (by simp) (by simp) (by simp) h.1 h.2, String.ofList_toList]

@[simp] theorem trim_trim (s : String) : trim (trim s) = trim s :=
  trim_of_unpadded (unpadded_trim s)

theorem unpadded_append {l m : List Char} (hl : Unpadded l) (hm : Unpadded m)
    (hlne : l ≠ []) : Unpadded (l ++ m) := by
  refine ⟨by rw [List.head?_append_of_ne_nil _ hlne]; exact hl.1, ?_⟩
  cases m with
  | nil => simpa using hl.2
  | cons c cs => rw [List.getLast?_append_of_ne_nil _ (List.cons_ne_nil c cs)]; exact hm.2

theorem trim_toList_of_head {s : String} (hhead : ∀ c ∈ s.toList.head?, isBlank c = false) :
    (trim s).toList = s.toList.rdropWhile isBlank := by
  rw [trim, String.toList_ofList, dropEnd_eq_rdropWhile]
  cases hs : s.toList with
  | nil => rfl
  | cons c cs =>
    rw [hs] at hhead
    rw [List.dropWhile_cons_of_neg (by simpa using hhead c rfl)]

theorem head?_trim {s : String} {c : Char} (hc : isBlank c = false) (hs : s.toList.head? = some c) :
    (trim s).toList.head? = some c := by
  rw [trim_toList_of_head (by simp [hs, hc])]
  have hne : s.toList.rdropWhile isBlank ≠ [] := by
    rw [ne_eq, List.rdropWhile_eq_nil_iff]
    intro hall
    have := hall c (List.mem_of_mem_head? hs)
    simp [hc] at this
  obtain ⟨rest, hrest⟩ := List.rdropWhile_prefix (p := isBlank) (l := s.toList)
  calc (s.toList.rdropWhile isBlank).head?
      = (s.toList.rdropWhile isBlank ++ rest).head? := (List.head?_append_of_ne_nil _ hne).symm
    _ = some c := by rw [hrest, hs]

theorem length_trim_lt {s : String} (hhead : ∀ c ∈ s.toList.head?, isBlank c = false)
    (hpad : ¬ Unpadded s.toList) : (trim s).length < s.length := by
  obtain ⟨c, hc, hblank⟩ : ∃ c ∈ s.toList.getLast?, isBlank c = true := by
    by_contra hnone
    refine hpad ⟨hhead, fun c hc => ?_⟩
    cases hb : isBlank c
    · rfl
    · exact absurd ⟨c, hc, hb⟩ hnone
  obtain ⟨init, hinit⟩ : ∃ init, s.toList = init ++ [c] := by
    rcases List.eq_nil_or_concat s.toList with h | ⟨init, d, h⟩
    · simp [h] at hc
    · rw [h, List.concat_eq_append, List.getLast?_concat] at hc
      cases hc
      exact ⟨init, by rw [h, List.concat_eq_append]⟩
  rw [← String.length_toList, ← String.length_toList, trim_toList_of_head hhead, hinit,
    List.rdropWhile_concat_pos _ _ _ hblank]
  have := (List.rdropWhile_prefix (p := isBlank) (l := init)).length_le
  simp only [List.length_append, List.length_singleton]
  omega

end Blank

namespace LowerCase

def Ascii (t : String) : Prop := ∀ c ∈ t.toList, c.toNat < 0x80

instance (t : String) : Decidable (Ascii t) :=
  inferInstanceAs (Decidable (∀ c ∈ t.toList, c.toNat < 0x80))

/-- On ASCII characters lowering stays in ASCII, keeps blanks and the rest apart, and does
nothing the second time. -/
theorem lowerChar_of_ascii {c : Char} (hc : c.toNat < 0x80) :
    (lowerChar c).toNat < 0x80 ∧ Blank.isBlank (lowerChar c) = Blank.isBlank c ∧
      lowerChar (lowerChar c) = lowerChar c := by
  have hall : ∀ n < 0x80, (lowerChar (Char.ofNat n)).toNat < 0x80 ∧
      Blank.isBlank (lowerChar (Char.ofNat n)) = Blank.isBlank (Char.ofNat n) ∧
      lowerChar (lowerChar (Char.ofNat n)) = lowerChar (Char.ofNat n) := by
    decide +kernel
  simpa [Char.ofNat_toNat] using hall c.toNat hc

theorem ascii_trim {t : String} (ht : Ascii t) : Ascii (Blank.trim t) := by
  intro c hc
  rw [Blank.trim, String.toList_ofList, Blank.dropEnd_eq_rdropWhile] at hc
  exact ht c ((List.dropWhile_suffix _).subset ((List.rdropWhile_prefix _ _).subset hc))

theorem unpadded_map_lowerChar {l : List Char} (hl : Blank.Unpadded l)
    (ha : ∀ c ∈ l, c.toNat < 0x80) : Blank.Unpadded (l.map lowerChar) := by
  refine ⟨fun c hc => ?_, fun c hc => ?_⟩
  · rw [List.head?_map, Option.mem_map] at hc
    obtain ⟨d, hd, rfl⟩ := hc
    rw [(lowerChar_of_ascii (ha d (List.mem_of_mem_head? hd))).2.1]
    exact hl.1 d hd
  · rw [List.getLast?_map, Option.mem_map] at hc
    obtain ⟨d, hd, rfl⟩ := hc
    rw [(lowerChar_of_ascii (ha d (List.mem_of_mem_getLast? hd))).2.1]
    exact hl.2 d hd

theorem lower_trim_lower_trim {t : String} (ht : Ascii t) :
    lower (Blank.trim (lower (Blank.trim t))) = lower (Blank.trim t) := by
  have hu := ascii_trim ht
  have htrim : Blank.trim (lower (Blank.trim t)) = lower (Blank.trim t) := by
    apply Blank.trim_of_unpadded
    rw [lower, String.toList_ofList]
    exact unpadded_map_lowerChar (Blank.unpadded_trim t) hu
  have hidem : (Blank.trim t).toList.map (lowerChar ∘ lowerChar) =
      (Blank.trim t).toList.map lowerChar :=
    List.map_congr_left fun c hc => (lowerChar_of_ascii (hu c hc)).2.2
  rw [htrim, lower, lower, String.toList_ofList, List.map_map, hidem]

end LowerCase

namespace PathName

def Plain (x : String) : Prop := Kept x ∧ x ≠ ".."

theorem plain_resolveStep {acc : List String} {e : String} (hacc : ∀ x ∈ acc, Plain x)
    (he : '/' ∉ e.toList) : ∀ x ∈ resolveStep true acc e, Plain x := by
  unfold resolveStep
  split
  · exact hacc
  · rename_i hskip
    split
    · rename_i hup
      split
      · rename_i last before
        split
        · exact absurd ‹last = ".."› (hacc last (by simp)).2
        · exact fun x hx => hacc x (List.mem_cons_of_mem _ hx)
      · simp
    · simp only [not_or] at hskip
      intro x hx
      rcases List.mem_cons.mp hx with rfl | hx
      · exact ⟨⟨hskip.1, hskip.2, he⟩, ‹_›⟩
      · exact hacc x hx

theorem plain_foldl_resolveStep :
    ∀ (l acc : List String), (∀ x ∈ acc, Plain x) → (∀ e ∈ l, '/' ∉ e.toList) →
      ∀ x ∈ l.foldl (resolveStep true) acc, Plain x
  | [], _, hacc, _ => hacc
  | e :: rest, acc, hacc, hl => by
    rw [List.foldl_cons]
    exact plain_foldl_resolveStep rest _ (plain_resolveStep hacc (hl e (by simp)))
      (fun x hx => hl x (List.mem_cons_of_mem _ hx))

theorem foldl_resolveStep_plain :
    ∀ (l acc : List String), (∀ x ∈ l, Plain x) →
      l.foldl (resolveStep true) acc = l.reverse ++ acc
  | [], _, _ => rfl
  | e :: rest, acc, hl => by
    obtain ⟨⟨hempty, hdot, -⟩, hup⟩ := hl e (by simp)
    have hstep : resolveStep true acc e = e :: acc := by
      simp [resolveStep, hempty, hdot, hup]
    rw [List.foldl_cons, hstep, foldl_resolveStep_plain rest _ (fun x hx => hl x (by simp [hx]))]
    simp

theorem elements_slash (xs : List Char) :
    elements (String.ofList ('/' :: xs)) = "" :: (xs.splitOn '/').map String.ofList := by
  simp [elements, List.splitOn_cons_eq_if_modifyHead]

def rootedStack (p : String) : List String :=
  ((elements p).foldl (resolveStep true) []).reverse

theorem plain_rootedStack (p : String) : ∀ x ∈ rootedStack p, Plain x := fun x hx =>
  plain_foldl_resolveStep _ [] (by simp) (fun _ he => slash_not_mem_elements he) x
    (List.mem_reverse.mp hx)

theorem clean_of_isAbs {p : String} (h : isAbs p = true) : clean p = render true (rootedStack p) := by
  rw [clean_eq_render, h, rootedStack]

theorem rootedStack_render {stack : List String} (h : ∀ x ∈ stack, Plain x) :
    rootedStack (render true stack) = stack := by
  have hrender : render true stack =
      String.ofList ('/' :: ['/'].intercalate (stack.map String.toList)) := by
    apply String.toList_injective
    simp [render, String.toList_intercalate]
  rw [rootedStack, hrender, elements_slash]
  cases stack with
  | nil => rfl
  | cons x xs =>
    have hslash : ∀ l ∈ (x :: xs).map String.toList, '/' ∉ l := by
      simpa using fun y hy => (h y hy).1.2.2
    rw [List.splitOn_intercalate '/' hslash (by simp), List.foldl_cons]
    have hskip : resolveStep true [] "" = [] := by simp [resolveStep]
    rw [hskip, List.map_map, List.map_congr_left (g := id) (fun y _ => by simp),
      List.map_id, foldl_resolveStep_plain _ _ h]
    simp

theorem isAbs_render (stack : List String) : isAbs (render true stack) = true := by
  rw [isAbs_iff]
  simp [render]

theorem clean_clean {p : String} (h : isAbs p = true) :
    isAbs (clean p) = true ∧ clean (clean p) = clean p := by
  rw [clean_of_isAbs h]
  exact ⟨isAbs_render _, by rw [clean_of_isAbs (isAbs_render _), rootedStack_render (plain_rootedStack p)]⟩

def spelledLength (l : List String) : Nat := (l.map fun x => x.length + 1).sum

theorem length_intercalate_add_one {d : List Char} :
    ∀ {l : List (List Char)}, l ≠ [] →
      (d.intercalate l).length + d.length = (l.map fun x => x.length + d.length).sum
  | [x], _ => by simp
  | x :: y :: rest, _ => by
    rw [List.intercalate_cons_cons, List.length_append, List.length_append,
      List.map_cons, List.sum_cons, ← length_intercalate_add_one (List.cons_ne_nil y rest)]
    omega

theorem length_intercalate_slash {l : List String} (h : l ≠ []) :
    ("/".intercalate l).length + 1 = spelledLength l := by
  have := length_intercalate_add_one (d := ['/']) (l := l.map String.toList) (by simpa using h)
  simpa [← String.length_toList, String.toList_intercalate, spelledLength, Function.comp_def]
    using this

theorem spelledLength_resolveStep (rooted : Bool) (acc : List String) (e : String) :
    spelledLength (resolveStep rooted acc e) ≤ spelledLength acc + (e.length + 1) := by
  unfold resolveStep
  split
  · omega
  · split
    · rename_i hup
      subst hup
      split
      · rename_i last before
        split
        · simp [spelledLength]
          omega
        · simp [spelledLength]
          omega
      · split <;> simp [spelledLength]
    · simp [spelledLength]
      omega

theorem spelledLength_foldl (rooted : Bool) :
    ∀ (l acc : List String),
      spelledLength (l.foldl (resolveStep rooted) acc) ≤ spelledLength acc + spelledLength l
  | [], _ => by simp [spelledLength]
  | e :: rest, acc => by
    rw [List.foldl_cons]
    have h₁ := spelledLength_foldl rooted rest (resolveStep rooted acc e)
    have h₂ := spelledLength_resolveStep rooted acc e
    simp only [spelledLength, List.map_cons, List.sum_cons] at h₁ h₂ ⊢
    omega

theorem length_clean_le {p : String} (h : isAbs p = true) : (clean p).length ≤ p.length := by
  obtain ⟨xs, hp⟩ : ∃ xs, p.toList = '/' :: xs := by
    rw [isAbs_iff] at h
    cases hcs : p.toList with
    | nil => simp [hcs] at h
    | cons c xs => exact ⟨xs, by simp_all⟩
  have hpe : p = String.ofList ('/' :: xs) := by rw [← hp, String.ofList_toList]
  have hlen : p.length = xs.length + 1 := by rw [← String.length_toList, hp]; rfl
  have hrest : spelledLength ((xs.splitOn '/').map String.ofList) = xs.length + 1 := by
    have := length_intercalate_add_one (d := ['/']) (List.splitOn_ne_nil '/' xs)
    rw [List.intercalate_splitOn] at this
    simpa [spelledLength, List.map_map, Function.comp_def] using this.symm
  have hstack : spelledLength (rootedStack p) ≤ xs.length + 1 := by
    rw [rootedStack, hpe, elements_slash, List.foldl_cons]
    have hskip : resolveStep true [] "" = [] := by simp [resolveStep]
    have hrev : ∀ l : List String, spelledLength l.reverse = spelledLength l := by
      simp [spelledLength, List.map_reverse, List.sum_reverse]
    rw [hskip, hrev]
    have := spelledLength_foldl true ((xs.splitOn '/').map String.ofList) []
    simp only [spelledLength, List.map_nil, List.sum_nil, Nat.zero_add] at this hrest ⊢
    omega
  rw [clean_of_isAbs h, hlen]
  cases hs : rootedStack p with
  | nil =>
    have : "/".length = 1 := rfl
    simp only [render, String.intercalate_nil, String.append_empty, if_true, this]
    omega
  | cons x xs' =>
    rw [hs] at hstack
    have hsep : "/".length = 1 := rfl
    have := length_intercalate_slash (l := x :: xs') (by simp)
    simp only [render, if_true, String.length_append, hsep]
    omega

end PathName

namespace Settings

open Host

variable {w : Workspace}

theorem expandPath_cases {p q : String} (h : expandPath w p = some q) :
    q = "" ∨ ∃ r, q = PathName.abs w.cwd (PathName.clean r) := by
  unfold expandPath at h
  dsimp only at h
  split at h
  · exact .inl (Option.some.inj h).symm
  · split at h
    · split at h
      · cases h
      · exact .inr ⟨_, (Option.some.inj h).symm⟩
    · exact .inr ⟨_, (Option.some.inj h).symm⟩

/-- Against an absolute working directory, a nonempty path is made absolute by cleaning an
absolute path. -/
theorem abs_eq_clean (hcwd : PathName.isAbs w.cwd = true) {x : String} (hx : x ≠ "") :
    ∃ t, PathName.isAbs t = true ∧ PathName.abs w.cwd x = PathName.clean t := by
  unfold PathName.abs
  split
  · exact ⟨x, ‹_›, rfl⟩
  · have hcwd' : w.cwd ≠ "" := by
      rintro h
      rw [h] at hcwd
      exact absurd hcwd (by decide)
    refine ⟨w.cwd ++ "/" ++ x, ?_, ?_⟩
    · rw [String.append_assoc]
      rw [PathName.isAbs_append_of_ne_empty hcwd']
      exact hcwd
    · simp [PathName.join, hcwd', hx, String.intercalate_cons_cons]

theorem expandPath_clean (hcwd : PathName.isAbs w.cwd = true) {p q : String}
    (h : expandPath w p = some q) :
    q = "" ∨ PathName.isAbs q = true ∧ PathName.clean q = q := by
  rcases expandPath_cases h with rfl | ⟨r, rfl⟩
  · exact .inl rfl
  · obtain ⟨t, ht, heq⟩ := abs_eq_clean hcwd (PathName.clean_ne_empty r)
    rw [heq]
    exact .inr (PathName.clean_clean ht)

theorem head?_of_isAbs {q : String} (hq : PathName.isAbs q = true) : q.toList.head? = some '/' :=
  (PathName.isAbs_iff q).mp hq

theorem expandPath_of_isAbs {p : String} (hp : PathName.isAbs (Blank.trim p) = true) :
    expandPath w p = some (PathName.clean (Blank.trim p)) := by
  have hne : Blank.trim p ≠ "" := by
    intro h
    rw [h] at hp
    exact absurd hp (by decide)
  have htilde : ¬ (Blank.trim p).startsWith "~" = true := by
    rw [String.startsWith_string_iff]
    rintro ⟨t, ht⟩
    have hhead := congrArg List.head? ht
    rw [head?_of_isAbs hp, show "~".toList = ['~'] from rfl] at hhead
    simp at hhead
  obtain ⟨habs, hidem⟩ := PathName.clean_clean hp
  unfold expandPath
  simp only [if_neg hne, if_neg htilde, PathName.abs, habs, if_true, hidem]

/-- An absolute path that does not end in a blank expands to its cleaned form; one that ends in
a blank expands to a shorter path. -/
theorem expandPath_of_isAbs_eq {q : String} (hq : PathName.isAbs q = true) :
    (Blank.Unpadded q.toList → expandPath w q = some (PathName.clean q)) ∧
      (¬ Blank.Unpadded q.toList →
        ∃ r, expandPath w q = some r ∧ r.length < q.length) := by
  have hhead := head?_of_isAbs hq
  have htrim : PathName.isAbs (Blank.trim q) = true :=
    (PathName.isAbs_iff _).mpr (Blank.head?_trim (by decide) hhead)
  refine ⟨fun hun => ?_, fun hpad => ⟨_, expandPath_of_isAbs htrim, ?_⟩⟩
  · rw [expandPath_of_isAbs htrim, Blank.trim_of_unpadded hun]
  · have hshort := Blank.length_trim_lt (by simp [hhead]; decide) hpad
    have := PathName.length_clean_le htrim
    omega

theorem expandPath_expandPath_eq_iff (hcwd : PathName.isAbs w.cwd = true) {p q : String}
    (h : expandPath w p = some q) : expandPath w q = some q ↔ Blank.Unpadded q.toList := by
  rcases expandPath_clean hcwd h with rfl | ⟨habs, hclean⟩
  · have hempty : Blank.trim "" = "" := by decide
    simp [expandPath, hempty, Blank.Unpadded]
  · obtain ⟨hkeep, hshrink⟩ := expandPath_of_isAbs_eq (w := w) habs
    constructor
    · intro hq
      by_contra hpad
      obtain ⟨r, hr, hlen⟩ := hshrink hpad
      rw [hq] at hr
      cases hr
      omega
    · intro hun
      rw [hkeep hun, hclean]

theorem expandField_eq_ok {field path q : String} :
    expandField w field path = .ok q ↔ expandPath w path = some q := by
  unfold expandField
  split <;> simp_all

/-- The key colour as normalizing leaves a trimmed colour: with a `#` in front when it is
nonempty and has none. -/
def hashed (t : String) : String := if t ≠ "" ∧ !t.startsWith "#" then "#" ++ t else t

theorem trim_hashed {t : String} (ht : Blank.trim t = t) : Blank.trim (hashed t) = hashed t := by
  unfold hashed
  split_ifs
  · have hun : Blank.Unpadded t.toList := ht ▸ Blank.unpadded_trim t
    have hhash : Blank.Unpadded ['#'] := ⟨by simp [Blank.isBlank], by simp [Blank.isBlank]⟩
    apply Blank.trim_of_unpadded
    rw [String.toList_append]
    exact Blank.unpadded_append hhash hun (List.cons_ne_nil _ _)
  · exact ht

@[simp] theorem hashed_hashed (t : String) : hashed (hashed t) = hashed t := by
  unfold hashed
  split_ifs <;> simp_all

/-- What normalizing does: it expands the five paths, and fails only where one of them cannot be
expanded; the identifiers are trimmed, the generator and log settings trimmed and lowercased,
and the key colour trimmed and given a `#` when it has none. -/
theorem normalize_eq_ok_iff {s n : Settings} :
    normalize w s = .ok n ↔ ∃ sv op td ro lf,
      expandPath w s.input.sourceVideo = some sv ∧ expandPath w s.output.path = some op ∧
      expandPath w s.output.textureDir = some td ∧ expandPath w s.render.output = some ro ∧
      expandPath w s.logging.file = some lf ∧
      n = { s with
        input := { s.input with assetId := Blank.trim s.input.assetId,
                                formatId := Blank.trim s.input.formatId, sourceVideo := sv },
        output := { s.output with path := op, textureDir := td },
        textures := { s.textures with
          generator := LowerCase.lower (Blank.trim s.textures.generator) },
        keying := { s.keying with keyColor := hashed (Blank.trim s.keying.keyColor) },
        render := { s.render with output := ro },
        logging := { level := LowerCase.lower (Blank.trim s.logging.level),
                     format := LowerCase.lower (Blank.trim s.logging.format), file := lf } } := by
  simp only [normalize, except_bind_eq_ok, expandField_eq_ok, except_pure_eq_ok]
  constructor
  · rintro ⟨sv, hsv, op, hop, td, htd, ro, hro, lf, hlf, rfl⟩
    exact ⟨sv, op, td, ro, lf, hsv, hop, htd, hro, hlf, rfl⟩
  · rintro ⟨sv, op, td, ro, lf, hsv, hop, htd, hro, hlf, rfl⟩
    exact ⟨sv, hsv, op, hop, td, htd, ro, hro, lf, hlf, rfl⟩

theorem expandPath_isSome (hhome : w.home ≠ "") (p : String) : (expandPath w p).isSome := by
  have hdir : w.homeDir = .ok w.home := by simp [Workspace.homeDir, hhome]
  unfold expandPath
  rw [hdir]
  dsimp only
  split_ifs <;> rfl

theorem exists_normalize_eq_ok_of_paths {s : Settings}
    (hsv : (expandPath w s.input.sourceVideo).isSome) (hop : (expandPath w s.output.path).isSome)
    (htd : (expandPath w s.output.textureDir).isSome) (hro : (expandPath w s.render.output).isSome)
    (hlf : (expandPath w s.logging.file).isSome) : ∃ n, normalize w s = .ok n := by
  obtain ⟨sv, hsv⟩ := Option.isSome_iff_exists.mp hsv
  obtain ⟨op, hop⟩ := Option.isSome_iff_exists.mp hop
  obtain ⟨td, htd⟩ := Option.isSome_iff_exists.mp htd
  obtain ⟨ro, hro⟩ := Option.isSome_iff_exists.mp hro
  obtain ⟨lf, hlf⟩ := Option.isSome_iff_exists.mp hlf
  exact ⟨_, normalize_eq_ok_iff.mpr ⟨sv, op, td, ro, lf, hsv, hop, htd, hro, hlf, rfl⟩⟩

theorem exists_normalize_eq_ok (hhome : w.home ≠ "") (s : Settings) : ∃ n, normalize w s = .ok n :=
  exists_normalize_eq_ok_of_paths (expandPath_isSome hhome _) (expandPath_isSome hhome _)
    (expandPath_isSome hhome _) (expandPath_isSome hhome _) (expandPath_isSome hhome _)

/-- Normalized settings hold the expansions of the five paths, trimmed identifiers, a trimmed
key colour with its `#`, and the lowered generator and log settings. -/
theorem normalize_eq_ok_fields {s n : Settings} (h : normalize w s = .ok n) :
    (expandPath w s.input.sourceVideo = some n.input.sourceVideo ∧
        expandPath w s.output.path = some n.output.path ∧
        expandPath w s.output.textureDir = some n.output.textureDir ∧
        expandPath w s.render.output = some n.render.output ∧
        expandPath w s.logging.file = some n.logging.file) ∧
      Blank.trim n.input.assetId = n.input.assetId ∧ Blank.trim n.input.formatId = n.input.formatId ∧
      hashed (Blank.trim n.keying.keyColor) = n.keying.keyColor ∧
      LowerCase.lower (Blank.trim s.textures.generator) = n.textures.generator ∧
      LowerCase.lower (Blank.trim s.logging.level) = n.logging.level ∧
      LowerCase.lower (Blank.trim s.logging.format) = n.logging.format := by
  obtain ⟨sv, op, td, ro, lf, hsv, hop, htd, hro, hlf, rfl⟩ := normalize_eq_ok_iff.mp h
  refine ⟨⟨hsv, hop, htd, hro, hlf⟩, Blank.trim_trim _, Blank.trim_trim _, ?_, rfl, rfl, rfl⟩
  show hashed (Blank.trim (hashed (Blank.trim s.keying.keyColor))) =
    hashed (Blank.trim s.keying.keyColor)
  rw [trim_hashed (Blank.trim_trim _), hashed_hashed]

theorem expandPath_outputPath {s n : Settings} (h : normalize w s = .ok n) :
    expandPath w s.output.path = some n.output.path :=
  (normalize_eq_ok_fields h).1.2.1

/-- Settings are their own normal form exactly when each path is its own expansion and each
trimmed, lowered or hashed field is so already. -/
theorem normalize_eq_ok_self_iff {n : Settings} :
    normalize w n = .ok n ↔
      (expandPath w n.input.sourceVideo = some n.input.sourceVideo ∧
          expandPath w n.output.path = some n.output.path ∧
          expandPath w n.output.textureDir = some n.output.textureDir ∧
          expandPath w n.render.output = some n.render.output ∧
          expandPath w n.logging.file = some n.logging.file) ∧
        Blank.trim n.input.assetId = n.input.assetId ∧
        Blank.trim n.input.formatId = n.input.formatId ∧
        LowerCase.lower (Blank.trim n.textures.generator) = n.textures.generator ∧
        hashed (Blank.trim n.keying.keyColor) = n.keying.keyColor ∧
        LowerCase.lower (Blank.trim n.logging.level) = n.logging.level ∧
        LowerCase.lower (Blank.trim n.logging.format) = n.logging.format := by
  rw [normalize_eq_ok_iff]
  constructor
  · rintro ⟨sv, op, td, ro, lf, hsv, hop, htd, hro, hlf, heq⟩
    have esv : n.input.sourceVideo = sv := by rw [heq]
    have eop : n.output.path = op := by rw [heq]
    have etd : n.output.textureDir = td := by rw [heq]
    have ero : n.render.output = ro := by rw [heq]
    have elf : n.logging.file = lf := by rw [heq]
    have ea : n.input.assetId = Blank.trim n.input.assetId := by nth_rewrite 1 [heq]; rfl
    have ef : n.input.formatId = Blank.trim n.input.formatId := by nth_rewrite 1 [heq]; rfl
    have eg : n.textures.generator = LowerCase.lower (Blank.trim n.textures.generator) := by
      nth_rewrite 1 [heq]; rfl
    have ec : n.keying.keyColor = hashed (Blank.trim n.keying.keyColor) := by
      nth_rewrite 1 [heq]; rfl
    have el : n.logging.level = LowerCase.lower (Blank.trim n.logging.level) := by
      nth_rewrite 1 [heq]; rfl
    have efo : n.logging.format = LowerCase.lower (Blank.trim n.logging.format) := by
      nth_rewrite 1 [heq]; rfl
    rw [← esv] at hsv
    rw [← eop] at hop
    rw [← etd] at htd
    rw [← ero] at hro
    rw [← elf] at hlf
    exact ⟨⟨hsv, hop, htd, hro, hlf⟩, ea.symm, ef.symm, eg.symm, ec.symm, el.symm, efo.symm⟩
  · rintro ⟨⟨hsv, hop, htd, hro, hlf⟩, ha, hf, hg, hc, hl, hfo⟩
    refine ⟨_, _, _, _, _, hsv, hop, htd, hro, hlf, ?_⟩
    rw [ha, hf, hg, hc, hl, hfo]

theorem finalize_eq_ok_iff {s n : Settings} :
    finalize w s = .ok n ↔ normalize w s = .ok n ∧ validate n = .ok () := by
  simp only [finalize, except_bind_eq_ok, except_pure_eq_ok]
  constructor
  · rintro ⟨m, hm, ⟨⟩, hv, rfl⟩
    exact ⟨hm, hv⟩
  · rintro ⟨hn, hv⟩
    exact ⟨n, hn, (), hv, rfl⟩

theorem expandPath_isSome_of_expandPath (hcwd : PathName.isAbs w.cwd = true) {p q : String}
    (h : expandPath w p = some q) : (expandPath w q).isSome := by
  rcases expandPath_clean hcwd h with rfl | ⟨habs, -⟩
  · have hempty : Blank.trim "" = "" := by decide
    simp [expandPath, hempty]
  · have htrim : PathName.isAbs (Blank.trim q) = true :=
      (PathName.isAbs_iff _).mpr (Blank.head?_trim (by decide) (head?_of_isAbs habs))
    rw [expandPath_of_isAbs htrim]
    rfl

/-- Finalized settings normalize again; finalizing them again gives them back exactly when
normalizing does, and that is exactly when none of the five paths ends in a blank and
lowering keeps the generator and the log level and format, as it does when they were given in
ASCII. The identifiers and the key colour always come back as they are. -/
theorem finalize_finalize_eq_iff (hcwd : PathName.isAbs w.cwd = true) {s n : Settings}
    (h : finalize w s = .ok n) :
    (∃ n', normalize w n = .ok n') ∧ (finalize w n = .ok n ↔ normalize w n = .ok n) ∧
      (normalize w n = .ok n ↔
        (Blank.Unpadded n.input.sourceVideo.toList ∧ Blank.Unpadded n.output.path.toList ∧
            Blank.Unpadded n.output.textureDir.toList ∧ Blank.Unpadded n.render.output.toList ∧
            Blank.Unpadded n.logging.file.toList) ∧
          LowerCase.lower (Blank.trim n.textures.generator) = n.textures.generator ∧
          LowerCase.lower (Blank.trim n.logging.level) = n.logging.level ∧
          LowerCase.lower (Blank.trim n.logging.format) = n.logging.format) ∧
      (LowerCase.Ascii s.textures.generator ∧ LowerCase.Ascii s.logging.level ∧
          LowerCase.Ascii s.logging.format →
        (normalize w n = .ok n ↔
          Blank.Unpadded n.input.sourceVideo.toList ∧ Blank.Unpadded n.output.path.toList ∧
            Blank.Unpadded n.output.textureDir.toList ∧ Blank.Unpadded n.render.output.toList ∧
            Blank.Unpadded n.logging.file.toList)) := by
  obtain ⟨hn, hvalid⟩ := finalize_eq_ok_iff.mp h
  obtain ⟨⟨hsv, hop, htd, hro, hlf⟩, hasset, hformat, hcolor, hgen, hlevel, hfmt⟩ :=
    normalize_eq_ok_fields hn
  have hself : normalize w n = .ok n ↔
      (Blank.Unpadded n.input.sourceVideo.toList ∧ Blank.Unpadded n.output.path.toList ∧
          Blank.Unpadded n.output.textureDir.toList ∧ Blank.Unpadded n.render.output.toList ∧
          Blank.Unpadded n.logging.file.toList) ∧
        LowerCase.lower (Blank.trim n.textures.generator) = n.textures.generator ∧
        LowerCase.lower (Blank.trim n.logging.level) = n.logging.level ∧
        LowerCase.lower (Blank.trim n.logging.format) = n.logging.format := by
    rw [normalize_eq_ok_self_iff, expandPath_expandPath_eq_iff hcwd hsv,
      expandPath_expandPath_eq_iff hcwd hop, expandPath_expandPath_eq_iff hcwd htd,
      expandPath_expandPath_eq_iff hcwd hro, expandPath_expandPath_eq_iff hcwd hlf]
    simp only [hasset, hformat, hcolor, true_and]
  refine ⟨?_, ⟨fun h' => (finalize_eq_ok_iff.mp h').1, fun h' => finalize_eq_ok_iff.mpr ⟨h', hvalid⟩⟩,
    hself, ?_⟩
  · exact exists_normalize_eq_ok_of_paths (expandPath_isSome_of_expandPath hcwd hsv)
      (expandPath_isSome_of_expandPath hcwd hop) (expandPath_isSome_of_expandPath hcwd htd)
      (expandPath_isSome_of_expandPath hcwd hro) (expandPath_isSome_of_expandPath hcwd hlf)
  · rintro ⟨hg, hl, hf⟩
    rw [← hgen, ← hlevel, ← hfmt] at hself
    rw [hself]
    exact and_iff_left ⟨LowerCase.lower_trim_lower_trim hg, LowerCase.lower_trim_lower_trim hl,
      LowerCase.lower_trim_lower_trim hf⟩

theorem finalize_finalize_eq_iff_padded_output :
    PathName.isAbs "/tmp" = true ∧
      ∃ n, finalize { cwd := "/tmp", home := "/root", volume := {} }
          { standard with output := { standard.output with path := "x /" } } = .ok n ∧
        (∃ n', normalize { cwd := "/tmp", home := "/root", volume := {} } n = .ok n') ∧
        (finalize { cwd := "/tmp", home := "/root", volume := {} } n = .ok n ↔
          normalize { cwd := "/tmp", home := "/root", volume := {} } n = .ok n) ∧
        (normalize { cwd := "/tmp", home := "/root", volume := {} } n = .ok n ↔
          (Blank.Unpadded n.input.sourceVideo.toList ∧ Blank.Unpadded n.output.path.toList ∧
              Blank.Unpadded n.output.textureDir.toList ∧ Blank.Unpadded n.render.output.toList ∧
              Blank.Unpadded n.logging.file.toList) ∧
            LowerCase.lower (Blank.trim n.textures.generator) = n.textures.generator ∧
            LowerCase.lower (Blank.trim n.logging.level) = n.logging.level ∧
            LowerCase.lower (Blank.trim n.logging.format) = n.logging.format) ∧
        (LowerCase.Ascii standard.textures.generator ∧ LowerCase.Ascii standard.logging.level ∧
            LowerCase.Ascii standard.logging.format →
          (normalize { cwd := "/tmp", home := "/root", volume := {} } n = .ok n ↔
            Blank.Unpadded n.input.sourceVideo.toList ∧ Blank.Unpadded n.output.path.toList ∧
              Blank.Unpadded n.output.textureDir.toList ∧ Blank.Unpadded n.render.output.toList ∧
              Blank.Unpadded n.logging.file.toList)) := by
  have hcwd : PathName.isAbs "/tmp" = true := by decide +kernel
  have hok : (finalize { cwd := "/tmp", home := "/root", volume := {} }
      { standard with output := { standard.output with path := "x /" } }).isOk = true := by
    decide +kernel
  exact ⟨hcwd, _, except_eq_ok_getD standard hok,
    finalize_finalize_eq_iff (w := { cwd := "/tmp", home := "/root", volume := {} })
      (s := { standard with output := { standard.output with path := "x /" } }) hcwd
      (except_eq_ok_getD standard hok)⟩

/-- Normalizing is not idempotent: against `/tmp`, the output path `x /` is expanded to `/tmp/x `,
which a second normalization trims to `/tmp/x`. -/
theorem normalize_moves_normalized_output_path :
    ∃ n n', normalize { cwd := "/tmp", home := "/root", volume := {} }
        { standard with output := { standard.output with path := "x /" } } = .ok n ∧
      normalize { cwd := "/tmp", home := "/root", volume := {} } n = .ok n' ∧
      n.output.path = "/tmp/x " ∧ n'.output.path = "/tmp/x" := by
  obtain ⟨n, hn⟩ := exists_normalize_eq_ok (w := { cwd := "/tmp", home := "/root", volume := {} })
    (by decide) { standard with output := { standard.output with path := "x /" } }
  obtain ⟨n', hn'⟩ := exists_normalize_eq_ok (w := { cwd := "/tmp", home := "/root", volume := {} })
    (by decide) n
  have hx : expandPath { cwd := "/tmp", home := "/root", volume := {} } "x /" = some "/tmp/x " := by
    decide +kernel
  have hx' : expandPath { cwd := "/tmp", home := "/root", volume := {} } "/tmp/x " = some "/tmp/x" := by
    decide +kernel
  have hfirst := expandPath_outputPath hn
  rw [hx] at hfirst
  have hop : n.output.path = "/tmp/x " := (Option.some.inj hfirst).symm
  have hsecond := expandPath_outputPath hn'
  rw [hop, hx'] at hsecond
  exact ⟨n, n', hn, hn', hop, (Option.some.inj hsecond).symm⟩

end Settings

end KeyedComposite
