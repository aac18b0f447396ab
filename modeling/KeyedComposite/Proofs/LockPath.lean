import Mathlib
import KeyedComposite.Host.Path

/-! # A lock file is never the file it locks

`clean` reads a path's elements one at a time onto a stack of kept elements
(`resolveStep`) and writes the stack out with `/` between its elements (`render`). Kept
elements are never empty, never `.` and hold no `/`, so writing out tells stacks apart.

Appending a text without a `/` to a path lengthens its last element only. When that text is
longer than two characters the longer element is kept as it is, on top of the stack the
other elements left, while the element it lengthens was dropped, popped or kept as it was:
in every case the two stacks differ. So a path and the path with `.lock` appended clean to
different paths, and make different absolute paths against every working directory.
-/
namespace KeyedComposite.PathName

def resolveStep (rooted : Bool) (acc : List String) (e : String) : List String :=
  if e = "" ∨ e = "." then acc
  else if e = ".." then
    match acc with
    | last :: before => if last = ".." then ".." :: acc else before
    | [] => if rooted then [] else [".."]
  else e :: acc

theorem resolveElements_cons (rooted : Bool) (e : String) (rest acc : List String) :
    resolveElements rooted (e :: rest) acc =
      resolveElements rooted rest (resolveStep rooted acc e) := by
  rw [resolveElements.eq_def]
  dsimp only
  unfold resolveStep
  by_cases hskip : e = "" ∨ e = "."
  · rw [if_pos hskip, if_pos hskip]
  by_cases hup : e = ".."
  · rw [if_neg hskip, if_neg hskip, if_pos hup, if_pos hup]
    cases acc with
    | nil => cases rooted <;> rfl
    | cons last before =>
      dsimp only
      split <;> rfl
  · rw [if_neg hskip, if_neg hskip, if_neg hup, if_neg hup]

theorem resolveElements_eq_foldl (rooted : Bool) :
    ∀ (l acc : List String),
      resolveElements rooted l acc = (l.foldl (resolveStep rooted) acc).reverse
  | [], _ => rfl
  | e :: rest, acc => by
    rw [resolveElements_cons, resolveElements_eq_foldl rooted rest, List.foldl_cons]

def Kept (x : String) : Prop := x ≠ "" ∧ x ≠ "." ∧ '/' ∉ x.toList

theorem kept_resolveStep {rooted : Bool} {acc : List String} {e : String}
    (hacc : ∀ x ∈ acc, Kept x) (he : '/' ∉ e.toList) :
    ∀ x ∈ resolveStep rooted acc e, Kept x := by
  have hdots : Kept ".." := ⟨by decide, by decide, by decide⟩
  unfold resolveStep
  split
  · exact hacc
  · rename_i hplain
    split
    · split
      · rename_i last before
        split
        · intro x hx
          rcases List.mem_cons.mp hx with rfl | hx
          · exact hdots
          · exact hacc x hx
        · exact fun x hx => hacc x (List.mem_cons_of_mem _ hx)
      · split
        · simp
        · simpa using hdots
    · simp only [not_or] at hplain
      intro x hx
      rcases List.mem_cons.mp hx with rfl | hx
      · exact ⟨hplain.1, hplain.2, he⟩
      · exact hacc x hx

theorem kept_foldl_resolveStep (rooted : Bool) :
    ∀ (l acc : List String), (∀ x ∈ acc, Kept x) → (∀ e ∈ l, '/' ∉ e.toList) →
      ∀ x ∈ l.foldl (resolveStep rooted) acc, Kept x
  | [], _, hacc, _ => hacc
  | e :: rest, acc, hacc, hl => by
    rw [List.foldl_cons]
    exact kept_foldl_resolveStep rooted rest _
      (kept_resolveStep hacc (hl e (List.mem_cons_self ..)))
      (fun x hx => hl x (List.mem_cons_of_mem _ hx))

theorem resolveStep_long {rooted : Bool} {acc : List String} {e : String} (h : 2 < e.length) :
    resolveStep rooted acc e = e :: acc := by
  have hne : ¬(e = "" ∨ e = ".") := by
    rintro (rfl | rfl) <;> revert h <;> decide
  have hdots : e ≠ ".." := by
    rintro rfl
    revert h
    decide
  simp [resolveStep, hne, hdots]

/-- Reading an element and reading it lengthened leave different stacks, when the
lengthened one is kept. -/
theorem resolveStep_ne_lengthened {rooted : Bool} (acc : List String) (e t : String)
    (ht : 2 < t.length) : resolveStep rooted acc e ≠ resolveStep rooted acc (e ++ t) := by
  have hlong : 2 < (e ++ t).length := by rw [String.length_append]; omega
  rw [resolveStep_long hlong]
  have hne : e ≠ e ++ t := fun h => by
    have := congrArg String.length h
    rw [String.length_append] at this
    omega
  by_cases hskip : e = "" ∨ e = "."
  · unfold resolveStep
    rw [if_pos hskip]
    exact fun h => List.cons_ne_self _ _ h.symm
  by_cases hup : e = ".."
  · subst hup
    unfold resolveStep
    rw [if_neg hskip, if_pos rfl]
    cases acc with
    | nil => cases rooted <;> simp [hne]
    | cons last before =>
      show (if last = ".." then ".." :: last :: before else before) ≠ _
      split
      · exact fun h => hne (List.cons.inj h).1
      · intro h
        have hlength := congrArg List.length h
        simp only [List.length_cons] at hlength
        omega
  · unfold resolveStep
    rw [if_neg hskip, if_neg hup]
    exact fun h => hne (List.cons.inj h).1

def render (rooted : Bool) (stack : List String) : String :=
  let body := "/".intercalate stack
  if rooted then "/" ++ body else if body = "" then "." else body

theorem clean_eq_render (p : String) :
    clean p = render (isAbs p) ((elements p).foldl (resolveStep (isAbs p)) []).reverse := by
  rw [clean, render, resolveElements_eq_foldl]

theorem intercalate_eq_empty {l : List String} (hl : ∀ x ∈ l, Kept x) :
    "/".intercalate l = "" ↔ l = [] := by
  constructor
  · intro h
    cases l with
    | nil => rfl
    | cons x rest =>
      have hx := (hl x (List.mem_cons_self ..)).1
      have hlen := congrArg String.length h
      cases rest with
      | nil => simp_all
      | cons y ys => simp [String.intercalate_cons_cons] at hlen
  · rintro rfl
    rfl

theorem intercalate_injective {l l' : List String} (hl : ∀ x ∈ l, Kept x)
    (hl' : ∀ x ∈ l', Kept x) (h : "/".intercalate l = "/".intercalate l') : l = l' := by
  by_cases hnil : l = []
  · subst hnil
    exact ((intercalate_eq_empty hl').mp h.symm).symm
  by_cases hnil' : l' = []
  · subst hnil'
    exact (intercalate_eq_empty hl).mp h
  have hchars := congrArg String.toList h
  have hslash : "/".toList = ['/'] := rfl
  simp only [String.toList_intercalate, hslash] at hchars
  have hsplit := congrArg (List.splitOn '/') hchars
  rw [List.splitOn_intercalate '/' (by simpa using fun x hx => (hl x hx).2.2) (by simpa),
    List.splitOn_intercalate '/' (by simpa using fun x hx => (hl' x hx).2.2) (by simpa)] at hsplit
  exact List.map_injective_iff.mpr (fun _ _ h => String.toList_injective h) hsplit

/-- Kept elements written out never spell `.`: one of them is not `.`, and two or more
have a `/` between them. -/
theorem intercalate_ne_dot {l : List String} (hl : ∀ x ∈ l, Kept x) :
    "/".intercalate l ≠ "." := by
  intro h
  match l, hl with
  | [], _ => exact absurd h (by decide)
  | [x], hl => exact (hl x (by simp)).2.1 (by simpa using h)
  | x :: y :: rest, _ =>
    have hmem : '/' ∈ ("/".intercalate (x :: y :: rest)).toList := by
      simp [String.intercalate_cons_cons]
    rw [h] at hmem
    exact absurd hmem (by decide)

theorem render_ne {rooted : Bool} {l l' : List String} (hl : ∀ x ∈ l, Kept x)
    (hl' : ∀ x ∈ l', Kept x) (hne : l' ≠ []) (h : l ≠ l') :
    render rooted l ≠ render rooted l' := by
  have hbody : "/".intercalate l ≠ "/".intercalate l' :=
    fun hb => h (intercalate_injective hl hl' hb)
  have hbody' : "/".intercalate l' ≠ "" := fun hb => hne ((intercalate_eq_empty hl').mp hb)
  unfold render
  cases rooted with
  | true => simpa using hbody
  | false =>
    simp only [Bool.false_eq_true, if_false, if_neg hbody']
    split
    · exact fun hdot => intercalate_ne_dot hl' hdot.symm
    · exact hbody

theorem not_mem_of_mem_splitOn {a : Char} :
    ∀ {xs piece : List Char}, piece ∈ xs.splitOn a → a ∉ piece
  | [], piece, h => by simp_all
  | x :: xs, piece, h => by
    rw [List.splitOn_cons_eq_if_modifyHead] at h
    split at h
    · rcases List.mem_cons.mp h with rfl | h
      · simp
      · exact not_mem_of_mem_splitOn h
    · rename_i hx
      obtain ⟨first, rest, hsplit⟩ := List.exists_cons_of_ne_nil (List.splitOn_ne_nil a xs)
      rw [hsplit, List.modifyHead_cons] at h
      rcases List.mem_cons.mp h with rfl | h
      · have hfirst :=
          not_mem_of_mem_splitOn (hsplit ▸ List.mem_cons_self (a := first) (l := rest))
        simp only [List.mem_cons, not_or]
        exact ⟨fun hax => hx (by simp [hax]), hfirst⟩
      · exact not_mem_of_mem_splitOn (hsplit ▸ List.mem_cons_of_mem _ h)

theorem slash_not_mem_elements {p e : String} (h : e ∈ elements p) : '/' ∉ e.toList := by
  obtain ⟨piece, hpiece, rfl⟩ := List.mem_map.mp h
  simpa using not_mem_of_mem_splitOn hpiece

theorem splitOn_append_of_not_mem {a : Char} {ys : List Char} (hys : a ∉ ys) :
    ∀ xs : List Char, ∃ init last, xs.splitOn a = init ++ [last] ∧
      (xs ++ ys).splitOn a = init ++ [last ++ ys]
  | [] => ⟨[], [], rfl, by simpa using List.splitOn_eq_singleton hys⟩
  | x :: xs => by
    obtain ⟨init, last, hxs, hxys⟩ := splitOn_append_of_not_mem hys xs
    rw [List.cons_append, List.splitOn_cons_eq_if_modifyHead, List.splitOn_cons_eq_if_modifyHead,
      hxs, hxys]
    split
    · exact ⟨[] :: init, last, rfl, rfl⟩
    · cases init with
      | nil => exact ⟨[], x :: last, rfl, rfl⟩
      | cons first rest => exact ⟨(x :: first) :: rest, last, rfl, rfl⟩

theorem elements_append {t : String} (ht : '/' ∉ t.toList) (q : String) :
    ∃ init last, elements q = init ++ [last] ∧ elements (q ++ t) = init ++ [last ++ t] := by
  obtain ⟨init, last, hq, hqt⟩ := splitOn_append_of_not_mem ht q.toList
  refine ⟨init.map String.ofList, String.ofList last, ?_, ?_⟩
  · simp [elements, hq]
  · simp [elements, String.toList_append, hqt]

theorem elements_append_slash {t : String} (ht : '/' ∉ t.toList) (q : String) :
    elements (q ++ "/" ++ t) = elements q ++ [t] := by
  have hsplit : (q.toList ++ '/' :: t.toList).splitOn '/' =
      q.toList.splitOn '/' ++ [t.toList] := by
    rw [List.splitOn_append_cons_self, List.splitOn_eq_singleton ht]
  simp [elements, String.toList_append, hsplit]

theorem isAbs_iff (p : String) : isAbs p = true ↔ p.toList.head? = some '/' := by
  rw [isAbs, String.startsWith_string_iff]
  cases p.toList <;> simp [eq_comm]

theorem isAbs_append_of_ne_empty {q : String} (hq : q ≠ "") (s : String) :
    isAbs (q ++ s) = isAbs q := by
  apply Bool.eq_iff_iff.mpr
  rw [isAbs_iff, isAbs_iff, String.toList_append]
  cases hchars : q.toList with
  | nil => exact absurd (String.toList_eq_nil_iff.mp hchars) hq
  | cons c cs => simp

theorem isAbs_append {t : String} (ht : '/' ∉ t.toList) (q : String) :
    isAbs (q ++ t) = isAbs q := by
  apply Bool.eq_iff_iff.mpr
  rw [isAbs_iff, isAbs_iff, String.toList_append]
  cases hq : q.toList with
  | nil =>
    cases ht' : t.toList with
    | nil => simp
    | cons c cs =>
      have : c ≠ '/' := fun hc => ht (by simp [ht', hc])
      simp [this]
  | cons c cs => simp

/-- A path and the path lengthened by a text without `/`, longer than two characters,
clean to different paths. -/
theorem clean_append_ne {t : String} (ht : '/' ∉ t.toList) (hlen : 2 < t.length) (q : String) :
    clean (q ++ t) ≠ clean q := by
  obtain ⟨init, last, hq, hqt⟩ := elements_append ht q
  rw [clean_eq_render, clean_eq_render, isAbs_append ht, hqt, hq, List.foldl_append,
    List.foldl_append, List.foldl_cons, List.foldl_cons, List.foldl_nil, List.foldl_nil]
  have hinit : ∀ e ∈ init, '/' ∉ e.toList :=
    fun e he => slash_not_mem_elements (hq ▸ List.mem_append_left _ he)
  have hlast : '/' ∉ last.toList :=
    slash_not_mem_elements (hq ▸ List.mem_append_right _ (by simp))
  have hstack := kept_foldl_resolveStep (isAbs q) init [] (by simp) hinit
  have hkept : ∀ e, '/' ∉ e.toList →
      ∀ x ∈ (resolveStep (isAbs q) (init.foldl (resolveStep (isAbs q)) []) e).reverse, Kept x :=
    fun e he x hx => kept_resolveStep hstack he x (List.mem_reverse.mp hx)
  have hlastt : '/' ∉ (last ++ t).toList := by simp [hlast, ht]
  refine (render_ne (hkept last hlast) (hkept _ hlastt) ?_ ?_).symm
  · simp [resolveStep_long (show 2 < (last ++ t).length by simp; omega)]
  · exact fun h => resolveStep_ne_lengthened _ last t hlen (List.reverse_injective h)

theorem clean_ne_empty (p : String) : clean p ≠ "" := by
  unfold clean
  dsimp only
  split
  · simp
  · split
    · simp
    · assumption

theorem clean_append_slash_ne {t : String} (ht : '/' ∉ t.toList) (hlen : 2 < t.length)
    {q : String} (hq : q ≠ "") : clean (q ++ "/" ++ t) ≠ clean q := by
  have hrooted : isAbs (q ++ "/" ++ t) = isAbs q := by
    rw [String.append_assoc]
    exact isAbs_append_of_ne_empty hq _
  rw [clean_eq_render, clean_eq_render, hrooted, elements_append_slash ht, List.foldl_append,
    List.foldl_cons, List.foldl_nil, resolveStep_long hlen]
  have hstack := kept_foldl_resolveStep (isAbs q) (elements q) [] (by simp)
    (fun e he => slash_not_mem_elements he)
  have htkept : Kept t :=
    ⟨fun h => by rw [h] at hlen; revert hlen; decide,
      fun h => by rw [h] at hlen; revert hlen; decide, ht⟩
  refine (render_ne (fun x hx => hstack x (List.mem_reverse.mp hx)) ?_ (by simp) ?_).symm
  · intro x hx
    rcases List.mem_cons.mp (List.mem_reverse.mp hx) with rfl | hx
    · exact htkept
    · exact hstack x hx
  · intro h
    simpa using congrArg List.length h

/-- A path lengthened by a text without `/`, longer than two characters, is made absolute
to another path than the path itself. -/
theorem abs_append_ne {t : String} (ht : '/' ∉ t.toList) (hlen : 2 < t.length)
    (workingDir p : String) : abs workingDir (p ++ t) ≠ abs workingDir p := by
  have htne : t ≠ "" := fun h => by rw [h] at hlen; revert hlen; decide
  unfold abs
  rw [isAbs_append ht]
  split
  · exact clean_append_ne ht hlen p
  · unfold join
    by_cases hdir : workingDir = ""
    · by_cases hp : p = ""
      · subst hdir hp
        simp [htne, clean_ne_empty]
      · simp [hdir, hp, htne, clean_append_ne ht hlen p]
    · by_cases hp : p = ""
      · subst hp
        simp [hdir, htne, clean_append_slash_ne ht hlen hdir]
      · simp [hdir, hp, String.intercalate_cons_cons, ← String.append_assoc,
          clean_append_ne ht hlen (workingDir ++ "/" ++ p)]

end KeyedComposite.PathName
