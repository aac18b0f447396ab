import KeyedComposite.Proofs.DecimalText
import KeyedComposite.Proofs.FrameCount
import KeyedComposite.Proofs.Extraction
import KeyedComposite.Time.Seconds

/-! # Reading times exactly

A time's text is stripped (blanks, then every trailing unit letter `s`, then blanks again) and
cut at its first `/`. `Blank.cut` at a one-character separator is the split of the characters
(`splitOn_singleton`), so a stripped text `a/b`, with no `/` in `a`, is read as the ratio of the
base-10 integers `a` and `b`, each trimmed; a text with no `/` is read by `RatioText.read?`.

Hence reading is exact and independent of notation: every ratio of two decimal integers, in
blanks and with any number of unit letters, every time's own text `num/den`, and every plain
decimal literal within the reader's limits read as the exact number they denote, and a ratio
whose sides are not integers is refused. The limits are real: a zero with an exponent past the
last word is a plain decimal literal of value zero that the reader refuses.
-/
namespace KeyedComposite

namespace Blank

section Cut

theorem splitOnAux_singleton_of_valid (c : Char) (l m r : List Char) (acc : List String) :
    String.splitOnAux (String.ofList (l ++ m ++ r)) (String.singleton c) ⟨String.utf8Len l⟩
        ⟨String.utf8Len l + String.utf8Len m⟩ 0 acc =
      acc.reverse ++ (List.splitOnPPrepend (· == c) r m.reverse).map String.ofList := by
  unfold String.splitOnAux
  simp only [List.append_assoc, String.atEnd_iff, String.rawEndPos_ofList, String.utf8Len_append,
    String.Pos.Raw.mk_le_mk, Nat.add_le_add_iff_left,
    (by omega : String.utf8Len m + String.utf8Len r ≤ String.utf8Len m ↔ String.utf8Len r = 0),
    String.utf8Len_eq_zero, List.reverse_cons]
  split
  · subst r
    simpa using String.extract_of_valid l m []
  · obtain ⟨d, r, rfl⟩ := r.exists_cons_of_ne_nil ‹_›
    have hget : String.Pos.Raw.get (String.ofList (l ++ (m ++ d :: r)))
        ⟨String.utf8Len l + String.utf8Len m⟩ = d := by
      simpa using String.get_of_valid (l ++ m) (d :: r)
    have hnext : String.Pos.Raw.next (String.ofList (l ++ (m ++ d :: r)))
        ⟨String.utf8Len l + String.utf8Len m⟩ =
        ⟨String.utf8Len l + String.utf8Len m + d.utf8Size⟩ := by
      simpa using String.next_of_valid (l ++ m) d r
    have hsep : String.Pos.Raw.get (String.singleton c) 0 = c := by
      rw [String.singleton_eq_ofList]
      exact String.get_of_valid [] [c]
    have hsepNext : String.Pos.Raw.next (String.singleton c) 0 = ⟨c.utf8Size⟩ := by
      have h := String.next_of_valid [] c []
      rw [List.nil_append, String.utf8Len_nil, Nat.zero_add] at h
      rw [String.singleton_eq_ofList]
      exact h
    have hsepEnd : (String.singleton c).rawEndPos = ⟨c.utf8Size⟩ := by
      rw [String.singleton_eq_ofList, String.rawEndPos_ofList]
      simp
    have hextract := String.extract_of_valid l m (d :: r)
    simp only [List.append_assoc] at hextract
    rw [hget, hsep, hsepNext, hsepEnd, hnext]
    split
    case isTrue hdc =>
      have hdc : d = c := beq_iff_eq.mp hdc
      subst hdc
      rw [if_pos (show (⟨d.utf8Size⟩ : String.Pos.Raw) ≤ ⟨d.utf8Size⟩ from Nat.le_refl _)]
      have hback : String.Pos.Raw.unoffsetBy
          ⟨String.utf8Len l + String.utf8Len m + d.utf8Size⟩ ⟨d.utf8Size⟩ =
          ⟨String.utf8Len l + String.utf8Len m⟩ := by
        simp [String.Pos.Raw.unoffsetBy]
      rw [hback, hextract]
      have := splitOnAux_singleton_of_valid d (l ++ m ++ [d]) [] r (String.ofList m :: acc)
      simpa [Nat.add_assoc, List.splitOnPPrepend_cons_eq_if] using this
    case isFalse hdc =>
      have hzero : String.Pos.Raw.unoffsetBy ⟨String.utf8Len l + String.utf8Len m⟩ 0 =
          ⟨String.utf8Len l + String.utf8Len m⟩ := by
        simp [String.Pos.Raw.unoffsetBy]
      rw [hzero, hnext]
      have := splitOnAux_singleton_of_valid c l (m ++ [d]) r acc
      simpa [Nat.add_assoc, List.splitOnPPrepend_cons_eq_if, hdc] using this

theorem splitOn_singleton (s : String) (c : Char) :
    s.splitOn (String.singleton c) = (s.toList.splitOn c).map String.ofList := by
  rw [String.splitOn, if_neg (by simp [String.singleton_ne_empty]), List.splitOn_eq_splitOnP]
  simpa using splitOnAux_singleton_of_valid c [] [] s.toList []

theorem cut_singleton_of_not_mem {s : String} {c : Char} (h : c ∉ s.toList) :
    cut s (String.singleton c) = none := by
  rw [cut, splitOn_singleton, List.splitOn_eq_singleton h, List.map_singleton]

/-- A text cut at a one-character separator gives what stands before its first occurrence and
everything after it. -/
theorem cut_singleton_of_eq {s : String} {c : Char} {a b : List Char}
    (hs : s.toList = a ++ c :: b) (ha : c ∉ a) :
    cut s (String.singleton c) = some (String.ofList a, String.ofList b) := by
  have hrest : (b.splitOn c).map String.ofList ≠ [] := by
    simp [List.splitOn_ne_nil]
  obtain ⟨p, ps, hps⟩ := List.exists_cons_of_ne_nil hrest
  rw [cut, splitOn_singleton, hs, List.splitOn_append_cons_self_of_not_mem ha, List.map_cons, hps]
  simp only [Option.some.injEq, Prod.mk.injEq, true_and]
  rw [← hps]
  apply String.toList_injective
  simp [List.map_map, Function.comp_def]

end Cut

section Trim

variable {p : Char → Bool}

theorem dropEnd_append_of_forall {m w : List Char} (hw : ∀ c ∈ w, p c) :
    dropEnd p (m ++ w) = dropEnd p m := by
  rw [dropEnd, dropEnd, List.reverse_append, List.dropWhile_append_of_pos (by simpa using hw)]

theorem dropEnd_eq_self {m : List Char} (hm : ∀ c ∈ m.getLast?, p c = false) : dropEnd p m = m := by
  rw [dropEnd]
  cases hr : m.reverse with
  | nil => simp_all
  | cons c r =>
    have hc : p c = false := hm c (by rw [← List.head?_reverse, hr]; rfl)
    rw [List.dropWhile_cons_of_neg (by simp [hc]), ← hr, List.reverse_reverse]

theorem trim_eq {t : String} {l m r : List Char} (ht : t.toList = l ++ m ++ r)
    (h₁ : ∀ c ∈ l, isBlank c) (h₂ : ∀ c ∈ r, isBlank c)
    (hhead : ∀ c ∈ m.head?, isBlank c = false) (hlast : ∀ c ∈ m.getLast?, isBlank c = false) :
    trim t = String.ofList m := by
  rw [trim, ht, List.append_assoc, List.dropWhile_append_of_pos h₁]
  congr 1
  cases m with
  | nil =>
    rw [List.nil_append, List.dropWhile_eq_nil_iff.mpr h₂]
    rfl
  | cons c m =>
    rw [List.cons_append, List.dropWhile_cons_of_neg (by simpa using hhead c rfl), ← List.cons_append,
      dropEnd_append_of_forall h₂, dropEnd_eq_self hlast]

end Trim

theorem isBlank_of_isDigit {c : Char} (h : c.isDigit) : isBlank c = false := by
  simp only [Char.isDigit, Bool.and_eq_true, decide_eq_true_eq] at h
  have hlo : 48 ≤ c.toNat := h.1
  have hhi : c.toNat ≤ 57 := h.2
  simp only [isBlank, Bool.or_eq_false_iff, decide_eq_false_iff_not, beq_eq_false_iff_ne]
  omega

end Blank

namespace Seconds

open RatioText

theorem head?_append_replicate {m : List Char} {k : Nat} {c : Char}
    (h : c ∈ (m ++ List.replicate k 's').head?) : c ∈ m.head? ∨ c = 's' := by
  cases m with
  | nil =>
    cases k with
    | zero => simp at h
    | succ k =>
      obtain rfl : 's' = c := by simpa [List.replicate_succ] using h
      exact .inr rfl
  | cons d m => simp_all

theorem getLast?_append_replicate {m : List Char} {k : Nat} {c : Char}
    (h : c ∈ (m ++ List.replicate k 's').getLast?) : c ∈ m.getLast? ∨ c = 's' := by
  rw [List.getLast?_append, List.getLast?_replicate] at h
  cases k with
  | zero => simp_all
  | succ k =>
    obtain rfl : 's' = c := by simpa using h
    exact .inr rfl

/-- Stripping a time's text takes off the blanks around it and the unit letters after it, down to
a text that neither starts nor ends with a blank and does not end with an `s`. -/
theorem strip_eq {t : String} {l m r : List Char} {k : Nat}
    (ht : t.toList = l ++ (m ++ List.replicate k 's') ++ r)
    (h₁ : ∀ c ∈ l, Blank.isBlank c) (h₂ : ∀ c ∈ r, Blank.isBlank c)
    (hhead : ∀ c ∈ m.head?, Blank.isBlank c = false)
    (hlast : ∀ c ∈ m.getLast?, Blank.isBlank c = false ∧ c ≠ 's') :
    strip t = String.ofList m := by
  have hs : Blank.isBlank 's' = false := by decide
  have houter : Blank.trim t = String.ofList (m ++ List.replicate k 's') := by
    refine Blank.trim_eq ht h₁ h₂ (fun c hc => ?_) (fun c hc => ?_)
    · rcases head?_append_replicate hc with hc | rfl
      · exact hhead c hc
      · exact hs
    · rcases getLast?_append_replicate hc with hc | rfl
      · exact (hlast c hc).1
      · exact hs
  have hunit : Blank.trimEnd (· = 's') (String.ofList (m ++ List.replicate k 's')) =
      String.ofList m := by
    rw [Blank.trimEnd, String.toList_ofList,
      Blank.dropEnd_append_of_forall (fun c hc => by simp [List.eq_of_mem_replicate hc]),
      Blank.dropEnd_eq_self (fun c hc => by simpa using (hlast c hc).2)]
  rw [strip, houter, hunit]
  exact Blank.trim_eq (l := []) (r := []) (by simp) (by simp) (by simp) hhead
    (fun c hc => (hlast c hc).1)

theorem strip_eq_of_forall {t : String} {l m r : List Char} {k : Nat}
    (ht : t.toList = l ++ (m ++ List.replicate k 's') ++ r)
    (h₁ : ∀ c ∈ l, Blank.isBlank c) (h₂ : ∀ c ∈ r, Blank.isBlank c)
    (hm : ∀ c ∈ m, Blank.isBlank c = false ∧ c ≠ 's') : strip t = String.ofList m :=
  strip_eq ht h₁ h₂ (fun c hc => (hm c (List.mem_of_mem_head? hc)).1)
    (fun c hc => hm c (List.mem_of_mem_getLast? hc))

theorem slash_eq_singleton : "/" = String.singleton '/' := by decide

theorem cut_slash_of_eq {s : String} {a b : List Char} (hs : s.toList = a ++ '/' :: b)
    (ha : '/' ∉ a) : Blank.cut s "/" = some (String.ofList a, String.ofList b) := by
  rw [slash_eq_singleton]
  exact Blank.cut_singleton_of_eq hs ha

theorem cut_slash_of_not_mem {s : String} (h : '/' ∉ s.toList) : Blank.cut s "/" = none := by
  rw [slash_eq_singleton]
  exact Blank.cut_singleton_of_not_mem h

theorem isEmpty_eq_false {s : String} (h : s.toList ≠ []) : s.isEmpty = false := by
  rw [Bool.eq_false_iff, ne_eq, String.isEmpty_iff, ← String.toList_eq_nil_iff]
  exact h

/-- A stripped text with a `/` reads as the ratio of the integers on either side of its first
`/`, each trimmed. -/
theorem read_of_ratio {text : String} {a b : List Char} {n d : Int}
    (hs : (strip text).toList = a ++ '/' :: b) (ha : '/' ∉ a)
    (hn : integer? (Blank.trim (String.ofList a)) = some n)
    (hd : integer? (Blank.trim (String.ofList b)) = some d) :
    read text = if d = 0 then .error (.zeroDenominator text) else .ok (Rat.divInt n d) := by
  have hcut := cut_slash_of_eq hs ha
  have hne : (strip text).isEmpty = false := isEmpty_eq_false (by rw [hs]; simp)
  simp only [read, hne, hcut, hn, hd]
  rfl

/-- A stripped text with a `/` is not a time unless both sides of its first `/` are base-10
integers. -/
theorem read_eq_badRatio {text : String} {a b : List Char}
    (hs : (strip text).toList = a ++ '/' :: b) (ha : '/' ∉ a)
    (hbad : ¬ IsIntegerText (Blank.trim (String.ofList a)) ∨
      ¬ IsIntegerText (Blank.trim (String.ofList b))) :
    read text = .error (.badRatio text) := by
  have hcut := cut_slash_of_eq hs ha
  have hne : (strip text).isEmpty = false := isEmpty_eq_false (by rw [hs]; simp)
  simp only [read, hne, hcut, Bool.false_eq_true, if_false]
  simp only [isIntegerText_iff_isSome, Option.not_isSome_iff_eq_none] at hbad
  rcases hbad with hbad | hbad
  · rw [hbad]
  · rw [hbad]
    cases integer? (Blank.trim (String.ofList a)) <;> rfl

theorem read_of_number {text s : String} {r : Rat} (hs : strip text = s) (hne : s.toList ≠ [])
    (hslash : '/' ∉ s.toList) (hr : read? s = some r) : read text = .ok r :=
  read_of_cut_eq_none hs (isEmpty_eq_false hne) (cut_slash_of_not_mem hslash) hr

theorem read_eq_badNumber {text s : String} (hs : strip text = s) (hne : s.toList ≠ [])
    (hslash : '/' ∉ s.toList) (hr : read? s = none) : read text = .error (.badNumber text) := by
  simp only [read, hs, isEmpty_eq_false hne, cut_slash_of_not_mem hslash, hr]
  rfl

section Characters

/- The characters of integers and literals are not blanks, unit letters or slashes, so stripping
a time's text and cutting it at its first `/` leave them alone. -/

theorem isDigit_facts {c : Char} (h : c.isDigit) : Blank.isBlank c = false ∧ c ≠ 's' ∧ c ≠ '/' := by
  refine ⟨Blank.isBlank_of_isDigit h, ?_, ?_⟩ <;> rintro rfl <;> simp at h

theorem decimal_char_facts {i : Int} {c : Char} (h : c ∈ (decimal i).toList) :
    Blank.isBlank c = false ∧ c ≠ 's' ∧ c ≠ '/' := by
  unfold decimal at h
  split at h
  · rw [String.toList_append, List.mem_append] at h
    rcases h with h | h
    · obtain rfl : c = '-' := by simpa using h
      decide
    · exact isDigit_facts (isDigit_of_mem_natDigits h)
  · exact isDigit_facts (isDigit_of_mem_natDigits h)

theorem facts_of_literalChar {c : Char} (h : DecimalLiteral.LiteralChar c) :
    Blank.isBlank c = false ∧ c ≠ 's' ∧ c ≠ '/' := by
  rcases h with ⟨d, rfl⟩ | rfl | rfl | rfl | rfl | rfl
  · revert d
    decide
  all_goals decide

end Characters

theorem trim_decimal (i : Int) : Blank.trim (decimal i) = decimal i := by
  have hfacts := fun c (hc : c ∈ (decimal i).toList) => (decimal_char_facts hc).1
  conv_rhs => rw [← String.ofList_toList (s := decimal i)]
  exact Blank.trim_eq (l := []) (r := []) (by simp) (by simp) (by simp)
    (fun c hc => hfacts c (List.mem_of_mem_head? hc)) (fun c hc => hfacts c (List.mem_of_mem_getLast? hc))

/-- A ratio of two decimal integers, in blanks and followed by any number of unit letters, reads
as the exact ratio unless the denominator is zero. -/
theorem read_decimal_ratio (n d : Int) (k : Nat) (w₁ w₂ : String) {input : String}
    (h₁ : ∀ c ∈ w₁.toList, Blank.isBlank c) (h₂ : ∀ c ∈ w₂.toList, Blank.isBlank c)
    (hinput : input =
      w₁ ++ decimal n ++ "/" ++ decimal d ++ String.ofList (List.replicate k 's') ++ w₂) :
    read input = if d = 0 then .error (.zeroDenominator input) else .ok (n / d) := by
  have hn := fun c (hc : c ∈ (decimal n).toList) => decimal_char_facts hc
  have hd := fun c (hc : c ∈ (decimal d).toList) => decimal_char_facts hc
  have hstrip : strip input = String.ofList ((decimal n).toList ++ '/' :: (decimal d).toList) := by
    refine strip_eq_of_forall (l := w₁.toList) (r := w₂.toList) (k := k) ?_ h₁ h₂ ?_
    · rw [hinput]
      simp [String.toList_append]
    · intro c hc
      rcases List.mem_append.mp hc with hc | hc
      · exact ⟨(hn c hc).1, (hn c hc).2.1⟩
      · rcases List.mem_cons.mp hc with rfl | hc
        · decide
        · exact ⟨(hd c hc).1, (hd c hc).2.1⟩
  rw [read_of_ratio (a := (decimal n).toList) (b := (decimal d).toList)
    (by rw [hstrip, String.toList_ofList]) (fun h => (hn '/' h).2.2 rfl)
    (by rw [String.ofList_toList, trim_decimal, integer?_decimal])
    (by rw [String.ofList_toList, trim_decimal, integer?_decimal]), Rat.divInt_eq_div]

theorem toList_text_ne_nil (l : DecimalLiteral) : l.text.toList ≠ [] := by
  obtain ⟨d, r, hb⟩ := DecimalLiteral.body_eq_cons l
  rw [DecimalLiteral.toList_text, hb]
  simp

/-- A plain decimal literal within the reader's limits, in blanks and followed by any number of unit
letters, reads as its exact value. -/
theorem read_literal (l : DecimalLiteral) (hl : l.WithinLimits) (k : Nat) (w₁ w₂ : String)
    {input : String}
    (h₁ : ∀ c ∈ w₁.toList, Blank.isBlank c) (h₂ : ∀ c ∈ w₂.toList, Blank.isBlank c)
    (hinput : input = w₁ ++ l.text ++ String.ofList (List.replicate k 's') ++ w₂) :
    read input = .ok l.value := by
  have hchars := fun c (hc : c ∈ l.text.toList) => facts_of_literalChar (DecimalLiteral.literalChar_of_mem_text hc)
  have hstrip : strip input = l.text := by
    conv_rhs => rw [← String.ofList_toList (s := l.text)]
    refine strip_eq_of_forall (l := w₁.toList) (r := w₂.toList) (k := k) ?_ h₁ h₂
      (fun c hc => ⟨(hchars c hc).1, (hchars c hc).2.1⟩)
    rw [hinput]
    simp [String.toList_append]
  exact read_of_number hstrip (toList_text_ne_nil l) (fun h => (hchars '/' h).2.2 rfl)
    (DecimalLiteral.read?_text l hl)

theorem read_text_append_unit (r : Rat) : read (text r ++ "s") = .ok r := by
  have hden : natDigits r.den = decimal (r.den : Int) := by
    simp [decimal]
  rw [read_decimal_ratio r.num r.den 1 "" "" (by simp) (by simp)
    (by apply String.toList_injective; simp [text, hden, String.toList_append]),
    if_neg (by exact_mod_cast r.den_nz), Int.cast_natCast, Rat.num_div_den]

theorem read_decimal_append_unit {r : Rat} (h : r.den = 1) : read (decimal r.num ++ "s") = .ok r := by
  obtain ⟨l, hl, htext, hvalue⟩ := DecimalLiteral.exists_text_eq_decimal r.num
  rw [read_literal l hl 1 "" "" (by simp) (by simp)
    (by apply String.toList_injective; simp [htext, String.toList_append]), hvalue,
    Rat.coe_int_num_of_den_eq_one h]

theorem frameCount_read_frameStart {f : FrameFormat} (hnum : 0 < f.rateNum) (hden : 0 < f.rateDen)
    {k : Int} (hk : IsWord k) :
    ∃ r, read (decimal (k * f.rateDen) ++ "/" ++ decimal f.rateNum ++ "s") = .ok r ∧
      f.frameCount (some r) = .ok k := by
  refine ⟨(k * f.rateDen : Int) / f.rateNum, ?_, ?_⟩
  · rw [read_decimal_ratio (k * f.rateDen) f.rateNum 1 "" "" (by simp)
      (by simp) (by apply String.toList_injective; simp [String.toList_append]), if_neg hnum.ne']
  · rw [FrameFormat.frameCount_some hden.ne', Int.cast_mul,
      FrameFormat.floor_frameStart hnum.ne' hden.ne', wrap64_of_isWord hk]

/-- Reading a time is exact and does not depend on its notation. A ratio of two decimal
integers, in blanks and followed by any number of unit letters, reads as the exact ratio, and
as an error naming the zero denominator when that is zero. The text `num/den` of every time,
and the integer text of a whole time, read back as that time when followed by the unit. Every
plain decimal literal within the reader's limits reads as its exact value. A stripped text with
a `/` is refused as a bad ratio unless both sides of its first `/` are base-10 integers. The
start of frame `k` written as `k·den/num s` holds frame `k`, at every positive rate and for
every word `k`. -/
theorem read_is_exact :
    (∀ (n d : Int) (k : Nat) (w₁ w₂ input : String), (∀ c ∈ w₁.toList, Blank.isBlank c) →
      (∀ c ∈ w₂.toList, Blank.isBlank c) →
      input = w₁ ++ decimal n ++ "/" ++ decimal d ++ String.ofList (List.replicate k 's') ++ w₂ →
      read input = if d = 0 then .error (.zeroDenominator input) else .ok (n / d)) ∧
    (∀ r : Rat, read (text r ++ "s") = .ok r ∧ (r.den = 1 → read (decimal r.num ++ "s") = .ok r)) ∧
    (∀ (l : DecimalLiteral) (k : Nat) (w₁ w₂ input : String), l.WithinLimits →
      (∀ c ∈ w₁.toList, Blank.isBlank c) → (∀ c ∈ w₂.toList, Blank.isBlank c) →
      input = w₁ ++ l.text ++ String.ofList (List.replicate k 's') ++ w₂ →
      read input = .ok l.value) ∧
    (∀ (input : String) (a b : List Char), (strip input).toList = a ++ '/' :: b → '/' ∉ a →
      (¬ IsIntegerText (Blank.trim (String.ofList a)) ∨
        ¬ IsIntegerText (Blank.trim (String.ofList b))) →
      read input = .error (.badRatio input)) ∧
    (∀ f : FrameFormat, 0 < f.rateNum → 0 < f.rateDen → ∀ k : Int, IsWord k →
      ∃ r, read (decimal (k * f.rateDen) ++ "/" ++ decimal f.rateNum ++ "s") = .ok r ∧
        f.frameCount (some r) = .ok k) :=
  ⟨fun n d k w₁ w₂ _ h₁ h₂ hinput => read_decimal_ratio n d k w₁ w₂ h₁ h₂ hinput,
    fun r => ⟨read_text_append_unit r, read_decimal_append_unit⟩,
    fun l k w₁ w₂ _ hl h₁ h₂ hinput => read_literal l hl k w₁ w₂ h₁ h₂ hinput,
    fun _ _ _ hs ha hbad => read_eq_badRatio hs ha hbad,
    fun _ hnum hden _ hk => frameCount_read_frameStart hnum hden hk⟩

/-- The texts of the reader's tests: a padded ratio, the literal `1.5`, three texts refused for
what stands around their first `/`, and frame 240 at the standard rate. -/
theorem read_is_exact_on_samples :
    read " 3600/2400s " = .ok (3 / 2) ∧
    read "1.5" = .ok (3 / 2) ∧
    read "1/2/3s" = .error (.badRatio "1/2/3s") ∧
    read "1.5/2" = .error (.badRatio "1.5/2") ∧
    read "/24000s" = .error (.badRatio "/24000s") ∧
    ∃ r, read (decimal (240 * FrameFormat.standard.rateDen) ++ "/" ++
      decimal FrameFormat.standard.rateNum ++ "s") = .ok r ∧
      FrameFormat.standard.frameCount (some r) = .ok 240 := by
  obtain ⟨hratio, -, hliteral, hbad, hlaw⟩ := read_is_exact
  have hspace : ∀ c ∈ (" ").toList, Blank.isBlank c := by simp [Blank.isBlank]
  have hempty : ∀ c ∈ ("").toList, Blank.isBlank c := by simp
  let half : DecimalLiteral := ⟨.none, [1], some [5], none, by decide⟩
  have hhalf : half.text = "1.5" := by decide
  refine ⟨?_, ?_, ?_, ?_, ?_, hlaw _ (by decide) (by decide) 240 (by decide)⟩
  · rw [hratio 3600 2400 1 " " " " _ hspace hspace (by decide +kernel), if_neg (by decide)]
    norm_num
  · rw [hliteral half 0 "" "" _ ⟨by decide, fun _ => by decide⟩ hempty hempty
      (by rw [hhalf]; decide +kernel)]
    norm_num [half, DecimalLiteral.value, DecimalLiteral.digits, DecimalLiteral.fractionDigits,
      DecimalLiteral.exponentValue, digitsValue]
  · exact hbad _ ['1'] ['2', '/', '3'] (by decide +kernel) (by decide) (.inr (by decide +kernel))
  · exact hbad _ ['1', '.', '5'] ['2'] (by decide +kernel) (by decide) (.inl (by decide +kernel))
  · exact hbad _ [] ['2', '4', '0', '0', '0'] (by decide +kernel) (by decide) (.inl (by decide +kernel))

/-- A zero with an exponent one past the last word is a plain decimal literal of value zero, and
the reader refuses it. -/
theorem read_refuses_exponent_past_last_word :
    ∃ l : DecimalLiteral, l.text = "0e9223372036854775808" ∧ l.value = 0 ∧
      read l.text = .error (.badNumber l.text) := by
  let l : DecimalLiteral :=
    ⟨.none, [0], none, some ⟨false, .none, [9, 2, 2, 3, 3, 7, 2, 0, 3, 6, 8, 5, 4, 7, 7, 5, 8, 0, 8],
      by decide⟩, by decide⟩
  have htext : l.text = "0e9223372036854775808" := by decide
  refine ⟨l, htext, ?_, ?_⟩
  · simp [l, DecimalLiteral.value, DecimalLiteral.digits, DecimalLiteral.fractionDigits, digitsValue]
  · rw [htext]
    exact read_eq_badNumber (s := "0e9223372036854775808") (by decide +kernel) (by decide)
      (by decide) (by decide +kernel)

end Seconds

end KeyedComposite
