import KeyedComposite.Proofs.Decimal
import KeyedComposite.Numeric.RatioRead

/-! # Reading decimal numbers exactly

A base-10 integer text is an optional sign and one or more digits (`IsIntegerText`);
`RatioText.integer?` reads exactly these, each as its signed value, and so reads back the
`decimal` text of every integer.

A plain decimal literal (`DecimalLiteral`) is an optional sign, one or more digits, an optional
point with the digits after it, and an optional exponent `e` or `E` with its own sign and
digits. `RatioText.read?` reads such a literal as the exact rational it denotes,
`±d₁…dₖ.f₁…fₘ · 10^x`, with no rounding, within the reader's limits (`WithinLimits`): `x` must be
a word, and unless the digits are all zero the power of ten left once the point is taken out,
`x - m`, may not pass `10^6` either way.
-/
namespace KeyedComposite.RatioText

/-- The sign written in front of a number or of an exponent. -/
inductive SignMark where
  | none
  | plus
  | minus
  deriving DecidableEq, Repr

namespace SignMark

def chars : SignMark → List Char
  | .none => []
  | .plus => ['+']
  | .minus => ['-']

def apply : SignMark → Int → Int
  | .minus, v => -v
  | _, v => v

@[simp] theorem apply_none (v : Int) : SignMark.none.apply v = v := rfl
@[simp] theorem apply_plus (v : Int) : SignMark.plus.apply v = v := rfl
@[simp] theorem apply_minus (v : Int) : SignMark.minus.apply v = -v := rfl

@[simp] theorem apply_zero (s : SignMark) : s.apply 0 = 0 := by
  cases s <;> rfl

section Split

variable {s : SignMark} {cs r : List Char}


theorem eq_plus_of_chars_append (hcs : ∀ c ∈ cs.head?, c ≠ '+') (h : s.chars ++ cs = '+' :: r) :
    s = .plus ∧ cs = r := by
  cases s <;> simp only [chars, List.nil_append, List.cons_append, List.cons.injEq] at h
  · exact absurd rfl (hcs '+' (by simp [h]))
  · exact ⟨rfl, by simpa using h⟩
  · exact absurd h.1 (by decide)

theorem eq_minus_of_chars_append (hcs : ∀ c ∈ cs.head?, c ≠ '-') (h : s.chars ++ cs = '-' :: r) :
    s = .minus ∧ cs = r := by
  cases s <;> simp only [chars, List.nil_append, List.cons_append, List.cons.injEq] at h
  · exact absurd rfl (hcs '-' (by simp [h]))
  · exact absurd h.1 (by decide)
  · exact ⟨rfl, by simpa using h⟩

theorem eq_none_of_chars_append (hplus : ∀ r, s.chars ++ cs = '+' :: r → False)
    (hminus : ∀ r, s.chars ++ cs = '-' :: r → False) : s = .none := by
  cases s
  · rfl
  · exact (hplus cs rfl).elim
  · exact (hminus cs rfl).elim

end Split

end SignMark

section Integers

def IsIntegerText (s : String) : Prop :=
  ∃ sign : SignMark, ∃ digits : List Char, s.toList = sign.chars ++ digits ∧ digits ≠ [] ∧
    ∀ c ∈ digits, c.isDigit

theorem foldl_digit_eq_ofDigitChars (cs : List Char) :
    cs.foldl (fun acc c => acc * 10 + (c.toNat - '0'.toNat)) 0 = Nat.ofDigitChars 10 cs 0 := by
  rw [Nat.ofDigitChars_eq_foldl]
  congr 1
  funext acc c
  rw [Nat.mul_comm]

theorem isDigit_iff_bounds (c : Char) : c.isDigit = true ↔ '0' ≤ c ∧ c ≤ '9' := by
  simp [Char.isDigit, Char.le_def]

theorem head_ne_sign_of_isDigit {cs : List Char} (h : ∀ c ∈ cs, c.isDigit) :
    ∀ c ∈ cs.head?, c ≠ '+' ∧ c ≠ '-' := by
  intro c hc
  have hdigit := h c (List.mem_of_mem_head? hc)
  constructor <;> rintro rfl <;> simp at hdigit

theorem integer?_body_eq_some {negative : Bool} {body : List Char} {v : Int} :
    (if body.isEmpty ∨ !body.all (fun c => decide ('0' ≤ c ∧ c ≤ '9')) then none
      else some (if negative
        then -((body.foldl (fun acc c => acc * 10 + (c.toNat - '0'.toNat)) 0 : Nat) : Int)
        else ((body.foldl (fun acc c => acc * 10 + (c.toNat - '0'.toNat)) 0 : Nat) : Int))) =
        some v ↔
      body ≠ [] ∧ (∀ c ∈ body, c.isDigit) ∧
        v = if negative then -(Nat.ofDigitChars 10 body 0 : Int) else Nat.ofDigitChars 10 body 0 := by
  simp only [foldl_digit_eq_ofDigitChars, List.isEmpty_iff, Bool.not_eq_true', List.all_eq_false,
    isDigit_iff_bounds]
  by_cases hbad : body = [] ∨ ∃ x ∈ body, ¬decide ('0' ≤ x ∧ x ≤ '9') = true
  · rw [if_pos hbad]
    refine iff_of_false (by simp) ?_
    rintro ⟨hne, hd, -⟩
    rcases hbad with hnil | ⟨c, hc, hnot⟩
    · exact hne hnil
    · exact hnot (decide_eq_true (hd c hc))
  · rw [if_neg hbad, Option.some.injEq]
    push Not at hbad
    constructor
    · rintro rfl
      exact ⟨hbad.1, fun c hc => of_decide_eq_true (hbad.2 c hc), rfl⟩
    · rintro ⟨-, -, rfl⟩
      rfl

theorem integer?_eq_some_iff {s : String} {v : Int} :
    integer? s = some v ↔ ∃ sign : SignMark, ∃ digits : List Char,
      s.toList = sign.chars ++ digits ∧ digits ≠ [] ∧ (∀ c ∈ digits, c.isDigit) ∧
        v = sign.apply (Nat.ofDigitChars 10 digits 0) := by
  unfold integer?
  split
  next negative body hsplit =>
  rw [integer?_body_eq_some]
  constructor
  · rintro ⟨hne, hdigits, rfl⟩
    split at hsplit
    next r heq =>
      cases hsplit
      exact ⟨.plus, _, heq, hne, hdigits, rfl⟩
    next r heq =>
      cases hsplit
      exact ⟨.minus, _, heq, hne, hdigits, rfl⟩
    next =>
      cases hsplit
      exact ⟨.none, s.toList, rfl, hne, hdigits, rfl⟩
  · rintro ⟨sign, digits, hs, hne, hdigits, rfl⟩
    have hhead := head_ne_sign_of_isDigit hdigits
    split at hsplit
    next r heq =>
      obtain ⟨rfl, rfl⟩ := SignMark.eq_plus_of_chars_append (fun c hc => (hhead c hc).1) (hs ▸ heq)
      cases hsplit
      exact ⟨hne, hdigits, rfl⟩
    next r heq =>
      obtain ⟨rfl, rfl⟩ := SignMark.eq_minus_of_chars_append (fun c hc => (hhead c hc).2) (hs ▸ heq)
      cases hsplit
      exact ⟨hne, hdigits, rfl⟩
    next hplus hminus =>
      obtain rfl := SignMark.eq_none_of_chars_append (hs ▸ hplus) (hs ▸ hminus)
      cases hsplit
      rw [hs, SignMark.chars, List.nil_append]
      exact ⟨hne, hdigits, rfl⟩

theorem isIntegerText_iff_isSome (s : String) : IsIntegerText s ↔ (integer? s).isSome := by
  rw [Option.isSome_iff_exists]
  constructor
  · rintro ⟨sign, digits, hs, hne, hdigits⟩
    exact ⟨_, integer?_eq_some_iff.mpr ⟨sign, digits, hs, hne, hdigits, rfl⟩⟩
  · rintro ⟨v, hv⟩
    obtain ⟨sign, digits, hs, hne, hdigits, -⟩ := integer?_eq_some_iff.mp hv
    exact ⟨sign, digits, hs, hne, hdigits⟩

instance : DecidablePred IsIntegerText := fun s =>
  decidable_of_iff _ (isIntegerText_iff_isSome s).symm

example : IsIntegerText "-24000" ∧ ¬ IsIntegerText "1.5" ∧ ¬ IsIntegerText "" := by decide

theorem natDigits_ne_nil (n : Nat) : (natDigits n).toList ≠ [] := by
  intro h
  have hvalue := ofDigitChars_natDigits n
  rw [h] at hvalue
  subst hvalue
  exact absurd h (by decide)

theorem integer?_decimal (i : Int) : integer? (decimal i) = some i := by
  have hdigits : ∀ c ∈ (natDigits i.natAbs).toList, c.isDigit := fun _ => isDigit_of_mem_natDigits
  rw [integer?_eq_some_iff]
  unfold decimal
  split
  case isTrue hneg =>
    refine ⟨.minus, _, by simp [SignMark.chars], natDigits_ne_nil _, hdigits, ?_⟩
    rw [ofDigitChars_natDigits, SignMark.apply_minus]
    omega
  case isFalse hnonneg =>
    refine ⟨.none, _, by rw [SignMark.chars, List.nil_append], natDigits_ne_nil _, hdigits, ?_⟩
    rw [ofDigitChars_natDigits, SignMark.apply_none]
    omega

end Integers

section Literals

open FloatText (lowerAscii)

def digitChars (ds : List (Fin 10)) : List Char := ds.map fun d => Nat.digitChar d.val

theorem digitIn_digitChar : ∀ d : Fin 10, digitIn 10 (Nat.digitChar d.val) = some d.val := by decide
theorem digitChar_ne_point : ∀ d : Fin 10, Nat.digitChar d.val ≠ '.' := by decide
theorem digitChar_ne_separator : ∀ d : Fin 10, Nat.digitChar d.val ≠ '_' := by decide
theorem digitChar_ne_sign : ∀ d : Fin 10, Nat.digitChar d.val ≠ '+' ∧ Nat.digitChar d.val ≠ '-' := by
  decide

theorem scanDigits_digitChars (sep : Bool) (ds : List (Fin 10)) (rest : List Char) (acc : Scan) :
    scanDigits 10 sep (digitChars ds ++ rest) acc =
      scanDigits 10 sep rest
        { acc with
          value := ds.foldl (fun v d => v * 10 + d.val) acc.value
          count := acc.count + ds.length
          prev := if ds = [] then acc.prev else '0' } := by
  induction ds generalizing acc with
  | nil => cases acc; rfl
  | cons d ds ih =>
    rw [digitChars, List.map_cons, List.cons_append, scanDigits,
      if_neg fun h => digitChar_ne_point d h.1, if_neg fun h => digitChar_ne_separator d h.1,
      digitIn_digitChar]
    simp only
    rw [← digitChars, ih]
    simp [Nat.add_assoc, Nat.add_comm 1]

theorem scanDigits_point (sep : Bool) (rest : List Char) (acc : Scan) (h : acc.point = none) :
    scanDigits 10 sep ('.' :: rest) acc =
      scanDigits 10 sep rest { acc with point := some acc.count, prev := '.' } := by
  rw [scanDigits, if_pos ⟨rfl, by simp [h]⟩]

theorem scanDigits_stop (sep : Bool) {c : Char} (rest : List Char) (acc : Scan) (hpoint : c ≠ '.')
    (hsep : c ≠ '_') (hdigit : digitIn 10 c = none) :
    scanDigits 10 sep (c :: rest) acc = (acc, c :: rest) := by
  rw [scanDigits, if_neg fun h => hpoint h.1, if_neg fun h => hsep h.1, hdigit]

theorem scanDigits_mark (upper : Bool) (rest : List Char) (acc : Scan) :
    scanDigits 10 true ((if upper then 'E' else 'e') :: rest) acc =
      (acc, (if upper then 'E' else 'e') :: rest) := by
  cases upper <;> exact scanDigits_stop true rest acc (by decide) (by decide) (by decide)

theorem digitChar_of_isDigit {c : Char} (h : c.isDigit) : ∃ d : Fin 10, Nat.digitChar d.val = c := by
  have hbounds : 48 ≤ c.toNat ∧ c.toNat ≤ 57 := by
    simp only [Char.isDigit, Bool.and_eq_true, decide_eq_true_eq] at h
    exact ⟨h.1, h.2⟩
  have hchars : ∀ d : Fin 10, Nat.digitChar d.val = Char.ofNat (48 + d.val) := by decide
  refine ⟨⟨c.toNat - 48, by omega⟩, ?_⟩
  rw [hchars, show 48 + (c.toNat - 48) = c.toNat by omega, Char.ofNat_toNat]

theorem exists_digitChars {cs : List Char} (h : ∀ c ∈ cs, c.isDigit) :
    ∃ ds : List (Fin 10), digitChars ds = cs := by
  induction cs with
  | nil => exact ⟨[], rfl⟩
  | cons c cs ih =>
    obtain ⟨d, hd⟩ := digitChar_of_isDigit (h c List.mem_cons_self)
    obtain ⟨ds, hds⟩ := ih fun c hc => h c (List.mem_cons_of_mem _ hc)
    exact ⟨d :: ds, by rw [digitChars, List.map_cons, ← digitChars, hd, hds]⟩

theorem ofDigitChars_digitChars (ds : List (Fin 10)) (init : Nat) :
    Nat.ofDigitChars 10 (digitChars ds) init = ds.foldl (fun v d => v * 10 + d.val) init := by
  induction ds generalizing init with
  | nil => exact Nat.ofDigitChars_nil
  | cons d ds ih =>
    rw [digitChars, List.map_cons, Nat.ofDigitChars_cons_digitChar_of_lt_ten d.isLt, ← digitChars,
      ih, List.foldl_cons, Nat.mul_comm]

def digitsValue (ds : List (Fin 10)) : Nat := ds.foldl (fun v d => v * 10 + d.val) 0

/-- An exponent of ten: `e` or `E`, an optional sign, one or more digits. -/
structure DecimalExponent where
  upper : Bool
  sign : SignMark
  digits : List (Fin 10)
  digits_ne_nil : digits ≠ []

namespace DecimalExponent

def chars (e : DecimalExponent) : List Char :=
  (if e.upper then 'E' else 'e') :: e.sign.chars ++ digitChars e.digits

def value (e : DecimalExponent) : Int := e.sign.apply (digitsValue e.digits)

end DecimalExponent

theorem scanDigits_exponentDigits (e : DecimalExponent) :
    scanDigits 10 true (digitChars e.digits) {} =
      ({ value := digitsValue e.digits, count := e.digits.length, prev := '0' }, []) := by
  have h := scanDigits_digitChars true e.digits [] {}
  rw [List.append_nil] at h
  rw [h, scanDigits]
  simp [digitsValue, e.digits_ne_nil]

theorem fitsWord_iff (x : Int) : fitsWord x = true ↔ IsWord x := by
  simp [fitsWord, IsWord]

theorem DecimalExponent.exponent_chars (e : DecimalExponent) (h : IsWord e.value) :
    exponent e.chars = some (e.value, false, []) := by
  have hmark : lowerAscii (if e.upper then 'E' else 'e') = 'e' := by
    cases e.upper <;> decide
  have hcount : e.digits.length ≠ 0 := by
    have := List.length_pos_of_ne_nil e.digits_ne_nil
    omega
  have hfit := (fitsWord_iff _).mpr h
  obtain ⟨d, ds, hds⟩ := List.exists_cons_of_ne_nil e.digits_ne_nil
  have hfirst : digitChars e.digits = Nat.digitChar d.val :: digitChars ds := by
    rw [hds]
    rfl
  have hscan := scanDigits_exponentDigits e
  have hp : decide (lowerAscii (if e.upper then 'E' else 'e') = 'p') = false := by
    rw [hmark]
    decide
  unfold value at hfit ⊢
  rw [DecimalExponent.chars, List.cons_append]
  cases hs : e.sign
  · have hplus : ∀ r', digitChars e.digits = '+' :: r' → False := fun r' h => by
      rw [hfirst, List.cons.injEq] at h
      exact (digitChar_ne_sign d).1 h.1
    have hminus : ∀ r', digitChars e.digits = '-' :: r' → False := fun r' h => by
      rw [hfirst, List.cons.injEq] at h
      exact (digitChar_ne_sign d).2 h.1
    rw [SignMark.chars, List.nil_append, exponent.eq_4 _ _ hplus hminus, if_pos (Or.inl hmark), hscan]
    simp_all [SignMark.apply]
  · rw [SignMark.chars, List.cons_append, List.nil_append, exponent.eq_2, if_pos (Or.inl hmark),
      hscan]
    simp_all [SignMark.apply]
  · rw [SignMark.chars, List.cons_append, List.nil_append, exponent.eq_3, if_pos (Or.inl hmark),
      hscan]
    simp_all [SignMark.apply]

/-- A plain decimal literal: an optional sign, one or more digits, an optional point with the
digits after it, and an optional exponent of ten. -/
structure DecimalLiteral where
  sign : SignMark
  whole : List (Fin 10)
  fraction : Option (List (Fin 10))
  exponent : Option DecimalExponent
  whole_ne_nil : whole ≠ []

namespace DecimalLiteral

def fractionDigits (l : DecimalLiteral) : List (Fin 10) := l.fraction.getD []

def fractionChars (l : DecimalLiteral) : List Char :=
  match l.fraction with
  | none => []
  | some fs => '.' :: digitChars fs

def exponentChars (l : DecimalLiteral) : List Char :=
  match l.exponent with
  | none => []
  | some e => e.chars

def exponentValue (l : DecimalLiteral) : Int := (l.exponent.map DecimalExponent.value).getD 0

def digits (l : DecimalLiteral) : Nat := digitsValue (l.whole ++ l.fractionDigits)

def text (l : DecimalLiteral) : String :=
  String.ofList (l.sign.chars ++ digitChars l.whole ++ l.fractionChars ++ l.exponentChars)

def value (l : DecimalLiteral) : Rat :=
  (l.sign.apply l.digits : Rat) * 10 ^ (l.exponentValue - l.fractionDigits.length)

theorem scanDigits_exponentChars (l : DecimalLiteral) (acc : Scan) :
    scanDigits 10 true l.exponentChars acc = (acc, l.exponentChars) := by
  unfold exponentChars
  rcases l.exponent with _ | e
  · rfl
  · exact scanDigits_mark e.upper _ acc

theorem scanDigits_body (l : DecimalLiteral) :
    ∃ prev, prev ≠ '_' ∧
      scanDigits 10 true (digitChars l.whole ++ l.fractionChars ++ l.exponentChars) {} =
        ({ value := l.digits, count := l.whole.length + l.fractionDigits.length,
           point := l.fraction.map fun _ => l.whole.length, prev, badSeparator := false },
         l.exponentChars) := by
  have hwhole := l.whole_ne_nil
  unfold fractionChars digits fractionDigits
  rcases l.fraction with _ | fs
  · refine ⟨'0', by decide, ?_⟩
    rw [List.append_nil, scanDigits_digitChars, scanDigits_exponentChars]
    simp [digitsValue, hwhole]
  · refine ⟨if fs = [] then '.' else '0', by split <;> decide, ?_⟩
    rw [List.append_assoc, List.cons_append, scanDigits_digitChars, scanDigits_point _ _ _ rfl,
      scanDigits_digitChars, scanDigits_exponentChars]
    simp [digitsValue, List.foldl_append]

def LiteralChar (c : Char) : Prop :=
  (∃ d : Fin 10, c = Nat.digitChar d.val) ∨ c = '.' ∨ c = 'e' ∨ c = 'E' ∨ c = '+' ∨ c = '-'

theorem literalChar_of_mem_digitChars {ds : List (Fin 10)} {c : Char} (h : c ∈ digitChars ds) :
    LiteralChar c := by
  obtain ⟨d, -, rfl⟩ := List.mem_map.mp h
  exact .inl ⟨d, rfl⟩

theorem literalChar_of_mem_signChars {s : SignMark} {c : Char} (h : c ∈ s.chars) :
    LiteralChar c := by
  cases s <;> simp_all [SignMark.chars, LiteralChar]

theorem literalChar_of_mem_text {l : DecimalLiteral} {c : Char} (h : c ∈ l.text.toList) :
    LiteralChar c := by
  revert h
  rcases l with ⟨sign, whole, fraction, exponent, -⟩
  intro h
  simp only [text, fractionChars, exponentChars, String.toList_ofList, List.mem_append] at h
  rcases h with ((hs | hw) | hf) | he
  · exact literalChar_of_mem_signChars hs
  · exact literalChar_of_mem_digitChars hw
  · rcases fraction with _ | fs
    · simp at hf
    · rcases List.mem_cons.mp hf with rfl | hf
      · exact .inr (.inl rfl)
      · exact literalChar_of_mem_digitChars hf
  · rcases exponent with _ | e
    · simp at he
    · simp only [DecimalExponent.chars, List.cons_append, List.mem_cons, List.mem_append] at he
      rcases he with rfl | hs | hd
      · cases e.upper
        · exact .inr (.inr (.inl rfl))
        · exact .inr (.inr (.inr (.inl rfl)))
      · exact literalChar_of_mem_signChars hs
      · exact literalChar_of_mem_digitChars hd

theorem LiteralChar.not_baseMark {c : Char} (h : LiteralChar c) :
    lowerAscii c ≠ 'b' ∧ lowerAscii c ≠ 'o' ∧ lowerAscii c ≠ 'x' := by
  rcases h with ⟨d, rfl⟩ | rfl | rfl | rfl | rfl | rfl
  · revert d
    decide
  all_goals decide

theorem literalChar_of_mem_body {l : DecimalLiteral} {c : Char}
    (h : c ∈ digitChars l.whole ++ l.fractionChars ++ l.exponentChars) : LiteralChar c := by
  refine literalChar_of_mem_text (l := l) ?_
  simp only [text, String.toList_ofList, List.append_assoc, List.mem_append] at h ⊢
  exact .inr h

theorem scanDigits_zero (r : List Char) :
    scanDigits 10 true ('0' :: r) {} = scanDigits 10 true r { count := 1, prev := '0' } := by
  rw [scanDigits, if_neg (by decide), if_neg (by decide)]
  rfl

/-- The literal's body starts with a digit and carries no base prefix, so it is read in base ten
from its first character on. -/
theorem significand_body (l : DecimalLiteral) :
    significand (digitChars l.whole ++ l.fractionChars ++ l.exponentChars) =
      some { value := l.digits, base := 10, fraction := l.fractionDigits.length,
             rest := l.exponentChars } := by
  obtain ⟨prev, hprev, hscan⟩ := scanDigits_body l
  have hcount : l.whole.length + l.fractionDigits.length ≠ 0 := by
    have := List.length_pos_of_ne_nil l.whole_ne_nil
    omega
  unfold significand
  split
  next base start body hstart =>
  have hbase : base = 10 ∧ scanDigits base true body start =
      scanDigits 10 true (digitChars l.whole ++ l.fractionChars ++ l.exponentChars) {} := by
    split at hstart
    next c r heq =>
      have hc := (literalChar_of_mem_body
        (heq ▸ List.mem_cons_of_mem _ List.mem_cons_self : c ∈ _)).not_baseMark
      rw [if_neg hc.1, if_neg hc.2.1, if_neg hc.2.2] at hstart
      cases hstart
      exact ⟨rfl, by rw [heq, scanDigits_zero]⟩
    next heq =>
      cases hstart
      exact ⟨rfl, by rw [heq, scanDigits_zero]⟩
    next =>
      cases hstart
      exact ⟨rfl, rfl⟩
  obtain ⟨rfl, hsame⟩ := hbase
  simp only [hsame, hscan, Bool.false_or, beq_iff_eq, hprev, if_false, hcount]
  unfold fractionDigits
  rcases hf : l.fraction with _ | fs <;> simp

theorem toList_text (l : DecimalLiteral) :
    l.text.toList = l.sign.chars ++ (digitChars l.whole ++ l.fractionChars ++ l.exponentChars) := by
  rw [text, String.toList_ofList, List.append_assoc, List.append_assoc, List.append_assoc]

theorem body_eq_cons (l : DecimalLiteral) : ∃ d : Fin 10, ∃ r,
    digitChars l.whole ++ l.fractionChars ++ l.exponentChars = Nat.digitChar d.val :: r := by
  obtain ⟨d, ws, hws⟩ := List.exists_cons_of_ne_nil l.whole_ne_nil
  exact ⟨d, digitChars ws ++ l.fractionChars ++ l.exponentChars, by rw [hws]; rfl⟩

theorem head_body_ne_sign (l : DecimalLiteral) :
    ∀ c ∈ (digitChars l.whole ++ l.fractionChars ++ l.exponentChars).head?, c ≠ '+' ∧ c ≠ '-' := by
  obtain ⟨d, b, hb⟩ := body_eq_cons l
  rw [hb, List.head?_cons]
  rintro c ⟨⟩
  exact digitChar_ne_sign d

/-- The reader's limits on the exponent: it is a word, and unless the digits are all zero the
power of ten left once the point is taken out stays within `10^6` either way. -/
def WithinLimits (l : DecimalLiteral) : Prop :=
  IsWord l.exponentValue ∧
    (l.digits ≠ 0 → |l.exponentValue - l.fractionDigits.length| ≤ 1000000)

theorem exponent_exponentChars (l : DecimalLiteral) (h : IsWord l.exponentValue) :
    RatioText.exponent l.exponentChars = some (l.exponentValue, false, []) := by
  revert h
  unfold exponentChars exponentValue
  rcases l.exponent with _ | e
  · exact fun _ => rfl
  · exact e.exponent_chars

end DecimalLiteral

/-- Powers of five and two, split by the sign of the exponent as the reader does, make a power of
ten. -/
theorem mkRat_pow_five_two (v : Int) (e : Int) :
    mkRat (v * (Nat.pow 5 e.toNat * Nat.pow 2 e.toNat : Nat))
      (Nat.pow 5 (-e).toNat * Nat.pow 2 (-e).toNat) = v * (10 : Rat) ^ e := by
  have hten : ∀ k : Nat, Nat.pow 5 k * Nat.pow 2 k = 10 ^ k := fun k => by
    rw [Nat.pow_eq, Nat.pow_eq, ← Nat.mul_pow]
  rw [hten, hten, Rat.mkRat_eq_div]
  rcases Int.eq_nat_or_neg e with ⟨n, rfl | rfl⟩
  · simp
  · simp [div_eq_mul_inv]

namespace DecimalLiteral

theorem read?_text (l : DecimalLiteral) (h : l.WithinLimits) : read? l.text = some l.value := by
  obtain ⟨hword, hlimit⟩ := h
  rw [read?.eq_1]
  split
  next negative body hsign =>
  have hbody : body = digitChars l.whole ++ l.fractionChars ++ l.exponentChars ∧
      negative = decide (l.sign = .minus) := by
    have hhead := head_body_ne_sign l
    rw [toList_text] at hsign
    split at hsign
    next r heq =>
      obtain ⟨hs, rfl⟩ := SignMark.eq_plus_of_chars_append (fun c hc => (hhead c hc).1) heq
      cases hsign
      simp [hs]
    next r heq =>
      obtain ⟨hs, rfl⟩ := SignMark.eq_minus_of_chars_append (fun c hc => (hhead c hc).2) heq
      cases hsign
      simp [hs]
    next hplus hminus =>
      have hs := SignMark.eq_none_of_chars_append hplus hminus
      cases hsign
      simp [hs, SignMark.chars]
  obtain ⟨rfl, rfl⟩ := hbody
  rw [significand_body]
  simp only
  rw [exponent_exponentChars l hword]
  simp only [List.isEmpty_nil, Bool.not_true, Bool.false_eq_true, if_false, if_true]
  by_cases hzero : l.digits = 0
  · rw [if_pos hzero]
    simp [value, hzero]
  · rw [if_neg hzero]
    have hbound := hlimit hzero
    rw [abs_le] at hbound
    rw [if_neg (by omega), show -(l.fractionDigits.length : Int) + l.exponentValue =
      l.exponentValue - l.fractionDigits.length by ring, value, ← mkRat_pow_five_two]
    congr 2
    cases l.sign <;> simp [SignMark.apply, Nat.mul_assoc]

end DecimalLiteral

namespace DecimalLiteral

theorem exists_text_eq_decimal (i : Int) :
    ∃ l : DecimalLiteral, l.WithinLimits ∧ l.text = decimal i ∧ l.value = i := by
  have hdigits : ∀ c ∈ (natDigits i.natAbs).toList, c.isDigit := fun _ => isDigit_of_mem_natDigits
  obtain ⟨ds, hds⟩ := exists_digitChars hdigits
  have hne : ds ≠ [] := by
    rintro rfl
    exact natDigits_ne_nil i.natAbs hds.symm
  have hvalue : digitsValue ds = i.natAbs := by
    rw [digitsValue, ← ofDigitChars_digitChars, hds, ofDigitChars_natDigits]
  let l : DecimalLiteral :=
    { sign := if i < 0 then .minus else .none, whole := ds, fraction := none, exponent := none,
      whole_ne_nil := hne }
  have hexp : l.exponentValue = 0 := rfl
  have hfrac : l.fractionDigits = [] := rfl
  have hwithin : l.WithinLimits := ⟨by rw [hexp]; decide, fun _ => by rw [hexp, hfrac]; decide⟩
  refine ⟨l, hwithin, ?_, ?_⟩
  · apply String.toList_injective
    simp only [text, fractionChars, exponentChars, List.append_nil, String.toList_ofList, hds, l]
    unfold decimal
    split <;> simp [SignMark.chars]
  · have hsigned : l.sign.apply i.natAbs = i := by
      simp only [l]
      split <;> simp only [SignMark.apply_minus, SignMark.apply_none] <;> omega
    rw [value, digits, hexp, hfrac, List.append_nil, hvalue, hsigned]
    simp

end DecimalLiteral

end Literals

end KeyedComposite.RatioText
