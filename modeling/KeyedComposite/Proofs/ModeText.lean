import Mathlib
import KeyedComposite.Keying.Modes
import KeyedComposite.Proofs.Normalize

/-! # Mode texts read back

A select mode is written as the first name whose value equals it, or else as its number
(`valueText`); reading trims, lowers the letter case, looks the text up among the names and
otherwise reads it as a number. Writing then reading gives back an equal value, or NaN for
NaN, given that the shortest positional text of a finite value reads back as that value.

Two facts of the number reader carry the proof. A point and a zero after an integer change
nothing: the text denotes the same number, and the reader's exact quotient of `10·d` by `10`
rounds as `d` itself does, because scaling a significand by `2^j` and its exponent by
`2^-j` leaves the nearest binary64 value alone (`nearestBits_mul_two_pow`). And the written
texts of numbers hold no letter but those of `NaN` and `Inf`, so they never meet a name.
-/
namespace KeyedComposite

namespace Binary64

theorem roundShift_mul_two_pow (m j : Nat) (s : Int) :
    roundShift (m * 2 ^ j) (s - j) = roundShift m s := by
  cases s with
  | ofNat k =>
    by_cases hkj : j ≤ k
    · have hs : (Int.ofNat k - j : Int) = Int.ofNat (k - j) := by
        simp only [Int.ofNat_eq_natCast]; omega
      rw [hs]
      simp only [roundShift, Nat.shiftLeft_eq, Nat.mul_assoc, ← Nat.pow_add,
        Nat.add_sub_cancel' hkj]
    · obtain ⟨d, rfl⟩ : ∃ d, j = k + d + 1 := ⟨j - k - 1, by omega⟩
      have hs : (Int.ofNat k - ((k + d + 1 : Nat) : Int) : Int) = Int.negSucc d := by
        simp only [Int.ofNat_eq_natCast]; omega
      have hscale : m * 2 ^ (k + d + 1) = m * 2 ^ k * 2 ^ (d + 1) := by ring
      have hpos : 0 < 2 ^ d := by positivity
      rw [hs]
      simp only [roundShift, Nat.shiftLeft_eq, Nat.shiftRight_eq_div_pow, Nat.pow_eq]
      rw [hscale, Nat.mul_div_cancel _ (by positivity), Nat.mul_mod_left]
      rw [if_neg (by omega)]
  | negSucc t =>
    have hs : (Int.negSucc t - j : Int) = Int.negSucc (t + j) := by omega
    rw [hs]
    simp only [roundShift, Nat.shiftRight_eq_div_pow, Nat.pow_eq]
    have hsplit : 2 ^ (t + j + 1) = 2 ^ (t + 1) * 2 ^ j := by
      rw [← Nat.pow_add]; congr 1; omega
    have hhalf : 2 ^ (t + j) = 2 ^ t * 2 ^ j := Nat.pow_add _ _ _
    have hpos : 0 < 2 ^ j := by positivity
    rw [hsplit, hhalf, Nat.mul_div_mul_right _ _ hpos, Nat.mul_mod_mul_right]
    simp only [gt_iff_lt, Nat.mul_lt_mul_right hpos, Nat.mul_left_inj (Nat.pos_iff_ne_zero.mp hpos)]

theorem bitLength_mul_two_pow {m : Nat} (hm : m ≠ 0) (j : Nat) :
    bitLength (m * 2 ^ j) = bitLength m + j := by
  have hpos : 0 < 2 ^ j := by positivity
  have hlog : Nat.log2 (m * 2 ^ j) = Nat.log2 m + j := by
    rw [Nat.log2_eq_iff (Nat.mul_ne_zero hm hpos.ne'), Nat.pow_add, Nat.add_right_comm,
      Nat.pow_add _ (Nat.log2 m + 1)]
    exact ⟨Nat.mul_le_mul_right _ (Nat.log2_self_le hm),
      Nat.mul_lt_mul_of_pos_right Nat.lt_log2_self hpos⟩
  simp only [bitLength, Nat.mul_ne_zero hm hpos.ne', hm, if_false, hlog]
  omega

/-- Scaling a significand by `2^j` and its exponent by `2^-j` leaves the nearest binary64 value
alone: the leading bit stays where it was, and so does every rounding decision. -/
theorem nearestBits_mul_two_pow (m j : Nat) (e : Int) :
    nearestBits (m * 2 ^ j) (e - j) = nearestBits m e := by
  by_cases hm : m = 0
  · simp [nearestBits, hm]
  have hm' : m * 2 ^ j ≠ 0 := Nat.mul_ne_zero hm (by positivity)
  have htop : ((bitLength (m * 2 ^ j) : Nat) : Int) - 1 + (e - j) =
      (bitLength m : Int) - 1 + e := by
    rw [bitLength_mul_two_pow hm]; push_cast; ring
  have hnormal : ∀ top : Int, e - j - (top - 52) = e - (top - 52) - j := fun _ => by ring
  have hsubnormal : e - j + 1074 = e + 1074 - j := by ring
  unfold nearestBits
  simp only [if_neg hm, if_neg hm', htop, hnormal, hsubnormal, roundShift_mul_two_pow]

theorem kind_eq_of_toBits_eq {a b : Float} (h : a.toBits = b.toBits) : kind a = kind b := by
  simp [kind, biasedExponent, fractionField, h]

theorem toBits_of_infinite {f : Float} (h : kind f = .infinite) :
    f.toBits = if isNegative f then 0xFFF0000000000000 else 0x7FF0000000000000 := by
  have hlt := f.toBits.toNat_lt
  have hexp : f.toBits.toNat / 2 ^ 52 % 2 ^ 11 = 2047 ∧ f.toBits.toNat % 2 ^ 52 = 0 := by
    unfold kind biasedExponent fractionField at h
    split_ifs at h with h1 h2
    · simp only [UInt64.toNat_and, UInt64.toNat_shiftRight] at h1 h2
      rw [show (0x7FF : UInt64).toNat = 2 ^ 11 - 1 from rfl, Nat.and_two_pow_sub_one_eq_mod,
        show (52 : UInt64).toNat % 64 = 52 from rfl, Nat.shiftRight_eq_div_pow] at h1
      rw [show (0xFFFFFFFFFFFFF : UInt64).toNat = 2 ^ 52 - 1 from rfl,
        Nat.and_two_pow_sub_one_eq_mod] at h2
      exact ⟨h1, h2⟩
  have hsign : isNegative f = decide (f.toBits.toNat / 2 ^ 63 = 1) := by
    rw [isNegative, Bool.eq_iff_iff, beq_iff_eq, decide_eq_true_eq, ← UInt64.toNat_inj,
      UInt64.toNat_shiftRight, show (63 : UInt64).toNat % 64 = 63 from rfl,
      show (1 : UInt64).toNat = 1 from rfl, Nat.shiftRight_eq_div_pow]
  rw [hsign]
  apply UInt64.ext
  generalize f.toBits.toNat = n at hlt hexp ⊢
  split_ifs with hneg
  · rw [show (0xFFF0000000000000 : UInt64).toNat = 18442240474082181120 from rfl]
    simp only [decide_eq_true_eq] at hneg
    omega
  · rw [show (0x7FF0000000000000 : UInt64).toNat = 9218868437227405312 from rfl]
    simp only [decide_eq_true_eq] at hneg
    omega

theorem ratioBits_mul_left {b : Nat} (hb : 0 < b) (a : Nat) :
    ratioBits (b * a) b = nearestBits a 0 := by
  unfold ratioBits
  simp only [Nat.shiftLeft_eq]
  generalize bitLength b + 56 - bitLength (b * a) = k
  have hq : b * a * 2 ^ k / b = a * 2 ^ k := by rw [Nat.mul_assoc, Nat.mul_div_cancel_left _ hb]
  have hr : b * a * 2 ^ k % b = 0 := by rw [Nat.mul_assoc, Nat.mul_mod_right]
  have hsig : 2 * (a * 2 ^ k) + 0 = a * 2 ^ (k + 1) := by ring
  have hexp : -(k : Int) - 1 = 0 - ((k + 1 : Nat) : Int) := by push_cast; ring
  rw [hq, hr, if_pos rfl, hsig, hexp, nearestBits_mul_two_pow]

end Binary64

namespace Digits

def Decimal (d : Digits) : Prop := ∀ x ∈ d.digits, x < 10

theorem decimal_ofScaled (c : Nat) (k : Int) : (ofScaled c k).Decimal := by
  intro x hx
  simp only [ofScaled, List.mem_reverse] at hx
  obtain ⟨ch, hch, rfl⟩ :=
    List.mem_map.mp (List.mem_reverse.mp ((List.dropWhile_sublist _).subset hx))
  have hdigit := Nat.isDigit_of_mem_toDigits (by decide) (by decide) hch
  simp only [Char.isDigit, Bool.and_eq_true, decide_eq_true_eq] at hdigit
  have : ch.toNat ≤ 57 := hdigit.2
  have h0 : '0'.toNat = 48 := rfl
  omega

theorem decimal_of_search {m : Nat} {e : Int} {w : Window} {top : Int} :
    ∀ (n fuel : Nat) {d : Digits}, search m e w top n fuel = some d → d.Decimal
  | _, 0, _, h => by simp [search] at h
  | n, fuel + 1, d, h => by
    simp only [search] at h
    split at h
    · split at h <;> (cases h; exact decimal_ofScaled _ _)
    · cases h; exact decimal_ofScaled _ _
    · cases h; exact decimal_ofScaled _ _
    · exact decimal_of_search (n + 1) fuel h

theorem decimal_shortest (f : Float) : (shortest f).Decimal := by
  unfold shortest
  dsimp only
  split
  · intro x hx; simp at hx
  · cases h : search _ _ _ _ 1 17 with
    | none => exact decimal_ofScaled _ _
    | some d => exact decimal_of_search 1 17 h

theorem digitChar_isDigit : ∀ x, x < 10 → (digitChar x).isDigit = true := by decide

theorem digitAt_isDigit {d : Digits} (hd : d.Decimal) (i : Int) : (d.digitAt i).isDigit = true := by
  unfold digitAt
  split
  · decide
  · cases hx : d.digits[i.toNat]? with
    | none => decide
    | some x => exact digitChar_isDigit x (hd x (List.mem_of_getElem? hx))

def wholePart (d : Digits) : String :=
  if d.point > 0 then String.ofList ((List.range d.point.toNat).map (fun (i : Nat) => d.digitAt i))
  else "0"

def fractionPart (d : Digits) (prec : Nat) : String :=
  String.ofList ((List.range prec).map (fun (i : Nat) => d.digitAt (d.point + i)))

theorem positionalWith_eq (d : Digits) (prec : Nat) :
    d.positionalWith prec =
      if prec = 0 then d.wholePart else d.wholePart ++ "." ++ d.fractionPart prec := rfl

theorem wholePart_ne_nil (d : Digits) : d.wholePart.toList ≠ [] := by
  unfold wholePart
  split
  · simp only [String.toList_ofList, ne_eq, List.map_eq_nil_iff, List.range_eq_nil]
    omega
  · decide

theorem isDigit_of_mem_wholePart {d : Digits} (hd : d.Decimal) :
    ∀ c ∈ d.wholePart.toList, c.isDigit = true := by
  unfold wholePart
  split
  · simp only [String.toList_ofList, List.mem_map]
    rintro c ⟨i, -, rfl⟩
    exact digitAt_isDigit hd _
  · intro c hc
    simp only [show "0".toList = ['0'] from rfl, List.mem_singleton] at hc
    subst hc; decide

theorem isDigit_of_mem_fractionPart {d : Digits} (hd : d.Decimal) (prec : Nat) :
    ∀ c ∈ (d.fractionPart prec).toList, c.isDigit = true := by
  simp only [fractionPart, String.toList_ofList, List.mem_map]
  rintro c ⟨i, -, rfl⟩
  exact digitAt_isDigit hd _

theorem isDigit_or_point_of_mem_positionalWith {d : Digits} (hd : d.Decimal) (prec : Nat) :
    ∀ c ∈ (d.positionalWith prec).toList, c.isDigit = true ∨ c = '.' := by
  intro c hc
  rw [positionalWith_eq] at hc
  split at hc
  · exact .inl (isDigit_of_mem_wholePart hd c hc)
  · simp only [String.toList_append, List.mem_append] at hc
    rcases hc with (hc | hc) | hc
    · exact .inl (isDigit_of_mem_wholePart hd c hc)
    · simp only [show ".".toList = ['.'] from rfl, List.mem_singleton] at hc
      exact .inr hc
    · exact .inl (isDigit_of_mem_fractionPart hd prec c hc)

theorem point_mem_positionalWith (d : Digits) {prec : Nat} (h : prec ≠ 0) :
    '.' ∈ (d.positionalWith prec).toList := by
  simp [positionalWith_eq, h, show ".".toList = ['.'] from rfl]

end Digits

namespace FloatText

theorem isDigit_ne {c d : Char} (hc : c.isDigit = true) (hd : d.isDigit = false) : c ≠ d := by
  rintro rfl
  simp [hc] at hd

theorem lowerAscii_of_isDigit {c : Char} (hc : c.isDigit = true) : lowerAscii c = c := by
  have hle : c.toNat ≤ 57 := by
    simp only [Char.isDigit, Bool.and_eq_true, decide_eq_true_eq] at hc
    exact hc.2
  unfold lowerAscii
  rw [if_neg]
  rintro ⟨hA, -⟩
  have : 65 ≤ c.toNat := hA
  omega

theorem digitValue_of_isDigit {c : Char} (hc : c.isDigit = true) :
    digitValue false c = some (c.toNat - '0'.toNat) := by
  simp only [Char.isDigit, Bool.and_eq_true, decide_eq_true_eq] at hc
  simp only [digitValue, Char.le_def]
  simp only [hc, and_self, if_true]

theorem significand_cons_of_isDigit {c : Char} (hc : c.isDigit = true) (cs : List Char)
    (acc : Significand) :
    significand false (c :: cs) acc =
      significand false cs
        { acc with
          value := acc.value * 10 + (c.toNat - '0'.toNat)
          sawDigits := true
          fraction := if acc.dotted then acc.fraction + 1 else acc.fraction } := by
  rw [significand, if_neg (isDigit_ne hc (by decide)), if_neg (isDigit_ne hc (by decide)),
    digitValue_of_isDigit hc]
  rfl

theorem significand_digits {ds : List Char} (hds : ∀ c ∈ ds, c.isDigit = true)
    (rest : List Char) (v : Nat) :
    significand false (ds ++ rest) { value := v, sawDigits := true } =
      significand false rest
        { value := ds.foldl (fun n c => n * 10 + (c.toNat - '0'.toNat)) v, sawDigits := true } := by
  induction ds generalizing v with
  | nil => rfl
  | cons c cs ih =>
    rw [List.cons_append, significand_cons_of_isDigit (hds c (by simp))]
    exact ih (fun x hx => hds x (by simp [hx])) _

def signChars (negative : Bool) : List Char := if negative then ['-'] else []

theorem specialValue_of_isDigit (negative : Bool) {c : Char} (hc : c.isDigit = true)
    (rest : List Char) : specialValue (signChars negative ++ c :: rest) = none := by
  have hi : lowerAscii c ≠ 'i' := by
    rw [lowerAscii_of_isDigit hc]; exact isDigit_ne hc (by decide)
  have hn : lowerAscii c ≠ 'n' := by
    rw [lowerAscii_of_isDigit hc]; exact isDigit_ne hc (by decide)
  have hplus : c ≠ '+' := isDigit_ne hc (by decide)
  have hminus : c ≠ '-' := isDigit_ne hc (by decide)
  cases negative <;> simp [specialValue, signChars, commonPrefix, hi, hn, hplus, hminus]

/-- A text of digits with no exponent, after an optional minus, reads as the nearest value to
its significand scaled by its fraction digits, once its significand is known. -/
theorem read_eq_ok_iff_of_significand (neg : Bool) {body : List Char} {σ : Significand}
    (r : Float) (hhead : ∀ c ∈ body.head?, c.isDigit = true)
    (hx : ∀ c ∈ body, lowerAscii c ≠ 'x')
    (hsig : significand false body {} = (σ, [])) (hsaw : σ.sawDigits = true)
    (hunder : σ.underscores = false) :
    read (String.ofList (signChars neg ++ body)) = .ok r ↔
      decimalValue neg σ.value (0 - σ.fraction) = some r := by
  rcases body with _ | ⟨c, rest⟩
  · simp only [significand, Prod.mk.injEq] at hsig
    rw [← hsig.1] at hsaw
    exact absurd hsaw (by decide)
  have hc : c.isDigit = true := hhead c rfl
  have hplus : c ≠ '+' := isDigit_ne hc (by decide)
  have hminus : c ≠ '-' := isDigit_ne hc (by decide)
  unfold read
  simp only [String.toList_ofList, specialValue_of_isDigit neg hc]
  rcases rest with _ | ⟨x, _ | ⟨y, t⟩⟩
  case cons.cons =>
    have hxx : lowerAscii x ≠ 'x' := hx x (by simp)
    by_cases hc0 : c = '0'
    · subst hc0
      cases neg <;> simp [signChars, hxx, hsig, hsaw, hunder] <;> split <;> simp_all
    · cases neg <;> simp [signChars, hplus, hminus, hc0, hsig, hsaw, hunder] <;> split <;> simp_all
  all_goals cases neg <;> simp [signChars, hplus, hminus, hsig, hsaw, hunder] <;> split <;> simp_all

def digitsValue (ds : List Char) : Nat := ds.foldl (fun n c => n * 10 + (c.toNat - '0'.toNat)) 0

theorem significand_digits_of_ne_nil {ds : List Char} (hds : ∀ c ∈ ds, c.isDigit = true)
    (hne : ds ≠ []) (rest : List Char) :
    significand false (ds ++ rest) {} =
      significand false rest { value := digitsValue ds, sawDigits := true } := by
  obtain ⟨d, ds, rfl⟩ := List.exists_cons_of_ne_nil hne
  rw [List.cons_append, significand_cons_of_isDigit (hds d (by simp))]
  exact significand_digits (fun x hx => hds x (by simp [hx])) rest _

theorem lowerAscii_ne_x_of_digits {ds : List Char} (hds : ∀ c ∈ ds, c.isDigit = true)
    (tail : List Char) (htail : ∀ c ∈ tail, c = '.' ∨ c = '0') :
    ∀ c ∈ ds ++ tail, lowerAscii c ≠ 'x' := by
  intro c hc
  rcases List.mem_append.mp hc with hc | hc
  · rw [lowerAscii_of_isDigit (hds c hc)]
    exact isDigit_ne (hds c hc) (by decide)
  · rcases htail c hc with rfl | rfl <;> decide

/-- A point and a zero after the digits of an integer `d` read as `d` itself: the text is one
digit wider and one place lower, and its quotient by ten is exact. -/
theorem decimalValue_ten_mul (negative : Bool) (d : Nat) :
    decimalValue negative (10 * d) (-1) = decimalValue negative d 0 := by
  by_cases hd : d = 0
  · simp [decimalValue, hd]
  have hd' : 10 * d ≠ 0 := by omega
  have hwidth : (((Nat.toDigits 10 (10 * d)).length : Nat) : Int) + -1 =
      (((Nat.toDigits 10 d).length : Nat) : Int) + 0 := by
    have happ := Nat.toDigits_append_toDigits (b := 10) (n := d) (d := 0) (by decide)
      (Nat.pos_of_ne_zero hd) (by decide)
    rw [Nat.add_zero] at happ
    rw [← happ, List.length_append]
    simp [Nat.toDigits, Nat.toDigitsCore]
  have hbits : Binary64.ratioBits (10 * d) (Nat.pow 10 (-(-1 : Int)).toNat) =
      Binary64.nearestBits (d * Nat.pow 10 (0 : Int).toNat) 0 := by
    simpa using Binary64.ratioBits_mul_left (b := 10) (by decide) d
  unfold decimalValue
  simp only [if_neg hd, if_neg hd', hwidth]
  simp only [show ¬ ((-1 : Int) ≥ 0) by decide, show ((0 : Int) ≥ 0) by decide, if_true,
    if_false, hbits]

theorem read_append_point_zero_eq_ok_iff (neg : Bool) {ds : List Char}
    (hds : ∀ c ∈ ds, c.isDigit = true) (hne : ds ≠ []) (r : Float) :
    read (String.ofList (signChars neg ++ (ds ++ ['.', '0']))) = .ok r ↔
      read (String.ofList (signChars neg ++ ds)) = .ok r := by
  have hhead : ∀ tail : List Char, ∀ c ∈ (ds ++ tail).head?, c.isDigit = true := by
    intro tail c hc
    obtain ⟨d, ds', rfl⟩ := List.exists_cons_of_ne_nil hne
    simp only [List.cons_append, List.head?_cons, Option.mem_def, Option.some.injEq] at hc
    exact hc ▸ hds d (by simp)
  have hpoint : significand false ['.', '0'] { value := digitsValue ds, sawDigits := true } =
      ({ value := 10 * digitsValue ds, fraction := 1, dotted := true, sawDigits := true }, []) := by
    simp [significand, digitValue, Nat.mul_comm]
  conv_rhs => rw [← List.append_nil ds]
  rw [read_eq_ok_iff_of_significand neg r (hhead _)
      (lowerAscii_ne_x_of_digits hds _ (by simp))
      ((significand_digits_of_ne_nil hds hne _).trans hpoint) rfl rfl,
    read_eq_ok_iff_of_significand neg r (hhead _)
      (lowerAscii_ne_x_of_digits hds _ (by simp))
      (significand_digits_of_ne_nil hds hne _) rfl rfl]
  simp only [Nat.cast_one, Nat.cast_zero, zero_sub, sub_zero, Int.reduceNeg]
  rw [decimalValue_ten_mul]

theorem special_of_finite {f : Float} (h : Binary64.kind f = .finite) : special f = none := by
  simp [special, h]

theorem positional_of_finite {f : Float} (h : Binary64.kind f = .finite) :
    positional f = signed f (Digits.shortest f).positional := by
  simp [positional, special_of_finite h]

theorem toList_signed (f : Float) (body : String) :
    (signed f body).toList = signChars (Binary64.isNegative f) ++ body.toList := by
  unfold signed signChars
  split <;> simp

end FloatText

namespace Keying

open Binary64

/-! ## Number texts -/

def isNumberChar (c : Char) : Bool := c.isDigit || c == '.' || c == '-'

theorem toNat_bounds_of_isNumberChar {c : Char} (h : isNumberChar c = true) :
    45 ≤ c.toNat ∧ c.toNat ≤ 57 := by
  simp only [isNumberChar, Bool.or_eq_true, beq_iff_eq, Char.isDigit, Bool.and_eq_true,
    decide_eq_true_eq] at h
  rcases h with (⟨h1, h2⟩ | rfl) | rfl
  · exact ⟨by have : 48 ≤ c.toNat := h1; omega, h2⟩
  · decide
  · decide

theorem isBlank_of_isNumberChar {c : Char} (h : isNumberChar c = true) :
    Blank.isBlank c = false := by
  have := toNat_bounds_of_isNumberChar h
  simp only [Blank.isBlank, Bool.or_eq_false_iff, decide_eq_false_iff_not, beq_eq_false_iff_ne]
  omega

theorem lowerChar_of_isNumberChar {c : Char} (h : isNumberChar c = true) :
    LowerCase.lowerChar c = c := by
  have := toNat_bounds_of_isNumberChar h
  unfold LowerCase.lowerChar
  rw [if_pos (by omega), if_neg]
  rintro ⟨hA, -⟩
  have : 65 ≤ c.toNat := hA
  omega

theorem not_lower_letter_of_isNumberChar {c : Char} (h : isNumberChar c = true) :
    ¬ ('a' ≤ c ∧ c ≤ 'z') := by
  have := toNat_bounds_of_isNumberChar h
  rintro ⟨ha, -⟩
  have : 97 ≤ c.toNat := ha
  omega

theorem trim_of_isNumberChar {t : String} (h : ∀ c ∈ t.toList, isNumberChar c = true) :
    Blank.trim t = t :=
  Blank.trim_of_unpadded
    ⟨fun c hc => isBlank_of_isNumberChar (h c (List.mem_of_mem_head? hc)),
      fun c hc => isBlank_of_isNumberChar (h c (List.mem_of_getLast? hc))⟩

theorem lower_of_isNumberChar {t : String} (h : ∀ c ∈ t.toList, isNumberChar c = true) :
    LowerCase.lower t = t := by
  have hmap : t.toList.map LowerCase.lowerChar = t.toList := by
    conv_rhs => rw [← List.map_id t.toList]
    exact List.map_congr_left (fun c hc => lowerChar_of_isNumberChar (h c hc))
  rw [LowerCase.lower, hmap, String.ofList_toList]

theorem isNumberChar_of_mem_positional {f : Float} (h : kind f = .finite) :
    ∀ c ∈ (FloatText.positional f).toList, isNumberChar c = true := by
  intro c hc
  rw [FloatText.positional_of_finite h, FloatText.toList_signed, List.mem_append] at hc
  rcases hc with hc | hc
  · unfold FloatText.signChars at hc
    split at hc
    · simp only [List.mem_singleton] at hc; subst hc; decide
    · simp at hc
  · rcases Digits.isDigit_or_point_of_mem_positionalWith (Digits.decimal_shortest f) _ c hc with
      hc | rfl
    · simp [isNumberChar, hc]
    · decide

theorem valueText_of_finite {f : Float} (h : kind f = .finite) :
    valueText f = if '.' ∈ (FloatText.positional f).toList then FloatText.positional f
      else FloatText.positional f ++ ".0" := by
  have hmark : ∀ c ∈ (FloatText.positional f).toList,
      (c = '.' ∨ c = 'e' ∨ c = 'E' ∨ c = 'n' ∨ c = 'N') ↔ c = '.' := by
    intro c hc
    have := toNat_bounds_of_isNumberChar (isNumberChar_of_mem_positional h c hc)
    constructor
    · rintro (h | h | h | h | h) <;> first | exact h | (subst h; simp at this)
    · exact .inl
  have hany : ((FloatText.positional f).toList.any fun c =>
      decide (c = '.' ∨ c = 'e' ∨ c = 'E' ∨ c = 'n' ∨ c = 'N')) = true ↔
        '.' ∈ (FloatText.positional f).toList := by
    rw [List.any_eq_true]
    constructor
    · rintro ⟨c, hc, hmk⟩
      exact (hmark c hc).mp (of_decide_eq_true hmk) ▸ hc
    · intro hdot
      exact ⟨'.', hdot, by decide⟩
  unfold valueText
  dsimp only
  by_cases hdot : '.' ∈ (FloatText.positional f).toList
  · rw [if_pos (hany.mpr hdot), if_pos hdot]
  · rw [if_neg (mt hany.mp hdot), if_neg hdot]

theorem read_valueText {f : Float} (h : kind f = .finite)
    (hround : FloatText.read (FloatText.positional f) = .ok f) :
    FloatText.read (valueText f) = .ok f := by
  rw [valueText_of_finite h]
  split
  · exact hround
  · rename_i hdot
    set d := Digits.shortest f
    have hd : d.Decimal := Digits.decimal_shortest f
    have hprec : (d.digits.length - d.point).toNat = 0 := by
      by_contra hne
      apply hdot
      rw [FloatText.positional_of_finite h, FloatText.toList_signed]
      exact List.mem_append_right _ (Digits.point_mem_positionalWith d hne)
    have hwhole : (FloatText.positional f).toList =
        FloatText.signChars (isNegative f) ++ d.wholePart.toList := by
      rw [FloatText.positional_of_finite h, FloatText.toList_signed,
        Digits.positional, Digits.positionalWith_eq, if_pos hprec]
    have hpointed : (FloatText.positional f ++ ".0").toList =
        FloatText.signChars (isNegative f) ++ (d.wholePart.toList ++ ['.', '0']) := by
      rw [String.toList_append, hwhole, List.append_assoc]
      rfl
    rw [show FloatText.positional f ++ ".0" = String.ofList (FloatText.positional f ++ ".0").toList
        from String.ofList_toList.symm, hpointed,
      FloatText.read_append_point_zero_eq_ok_iff _ (Digits.isDigit_of_mem_wholePart hd)
        (Digits.wholePart_ne_nil d),
      ← hwhole, String.ofList_toList]
    exact hround

/-! ## Equal values -/

theorem sameValue_eq_false_of_nan {a b : Float} (hb : kind b = .nan) : sameValue a b = false := by
  have hbits : (a.toBits == b.toBits && kind a != .nan) = false := by
    cases h : (a.toBits == b.toBits)
    · rfl
    · rw [kind_eq_of_toBits_eq (beq_iff_eq.mp h), hb]
      rfl
  simp [sameValue, hb, hbits]

theorem sameValue_self {a : Float} (ha : kind a ≠ .nan) : sameValue a a = true := by
  simp [sameValue, ha]

theorem sameValue_of_toBits_eq {a b : Float} (h : a.toBits = b.toBits) (ha : kind a ≠ .nan) :
    sameValue a b = true := by
  simp [sameValue, h, ha]

theorem sameValue_of_zero {a b : Float} (ha : kind a = .zero) (hb : kind b = .zero) :
    sameValue a b = true := by
  simp [sameValue, ha, hb]

/-! ## Name tables -/

/-- What writing and reading names relies on in a table: its names are distinct words of
lower-case letters, none of them `nan`, and it names a zero. -/
structure NamesFit (names : List (String × Float)) : Prop where
  normal : ∀ p ∈ names, LowerCase.lower (Blank.trim p.1) = p.1
  nodup : (names.map Prod.fst).Nodup
  lettered : ∀ p ∈ names, p.1.toList.all (fun c => 'a' ≤ c ∧ c ≤ 'z') = true
  nonempty : ∀ p ∈ names, p.1 ≠ ""
  not_nan : ∀ p ∈ names, p.1 ≠ "nan"
  zero : ∃ p ∈ names, kind p.2 = .zero
  finite : ∀ p ∈ names, kind p.2 = .finite ∨ kind p.2 = .zero

theorem ModeKind.namesFit (k : ModeKind) : NamesFit k.names := by
  cases k <;> constructor <;> decide +kernel

theorem find?_fst_of_nodup {α : Type} {l : List (String × α)} (hl : (l.map Prod.fst).Nodup)
    {p : String × α} (hp : p ∈ l) : l.find? (·.1 == p.1) = some p := by
  induction l with
  | nil => simp at hp
  | cons q rest ih =>
    rw [List.map_cons, List.nodup_cons] at hl
    rcases List.mem_cons.mp hp with rfl | hp
    · simp
    · have hne : q.1 ≠ p.1 := fun h => hl.1 (h ▸ List.mem_map_of_mem hp)
      rw [List.find?_cons, show (q.1 == p.1) = false from beq_false_of_ne hne]
      exact ih hl.2 hp

variable {k : ModeKind}

theorem read_name {p : String × Float} (hp : p ∈ k.names) : k.read p.1 = .ok p.2 := by
  have hfit := k.namesFit
  unfold ModeKind.read
  simp only [hfit.normal p hp, find?_fst_of_nodup hfit.nodup hp]

theorem find?_name_eq_none {t : String} (ht : ∃ c ∈ t.toList, ¬ ('a' ≤ c ∧ c ≤ 'z')) :
    k.names.find? (·.1 == t) = none := by
  rw [List.find?_eq_none]
  intro p hp heq
  obtain ⟨c, hc, hnot⟩ := ht
  rw [← beq_iff_eq.mp heq] at hc
  exact hnot (of_decide_eq_true (List.all_eq_true.mp (k.namesFit.lettered p hp) c hc))

theorem read_of_isNumberChar {t : String} (hchars : ∀ c ∈ t.toList, isNumberChar c = true)
    (hne : t ≠ "") {w : Float} (hread : FloatText.read t = .ok w) : k.read t = .ok w := by
  obtain ⟨c, hc⟩ : ∃ c, c ∈ t.toList := by
    cases hl : t.toList with
    | nil => exact absurd (String.toList_eq_nil_iff.mp hl) hne
    | cons c _ => exact ⟨c, List.mem_cons_self⟩
  have hnone := find?_name_eq_none (k := k)
    ⟨c, hc, not_lower_letter_of_isNumberChar (hchars c hc)⟩
  unfold ModeKind.read
  simp only [trim_of_isNumberChar hchars, lower_of_isNumberChar hchars, hnone, hread]

theorem read_NaN : k.read "NaN" = .ok (Float.ofBits 0x7FF8000000000001) := by
  cases k <;> rfl

theorem read_Inf : k.read "+Inf" = .ok (Float.ofBits 0x7FF0000000000000) := by
  cases k <;> rfl

theorem read_negInf : k.read "-Inf" = .ok (Float.ofBits 0xFFF0000000000000) := by
  cases k <;> rfl

/-! ## Writing and reading -/

theorem valueText_of_nan {f : Float} (h : kind f = .nan) : valueText f = "NaN" := by
  have hpos : FloatText.positional f = "NaN" := by
    simp [FloatText.positional, FloatText.special, h]
  unfold valueText
  rw [hpos]
  decide +kernel

theorem valueText_of_infinite {f : Float} (h : kind f = .infinite) :
    valueText f = if isNegative f then "-Inf" else "+Inf" := by
  have hpos : FloatText.positional f = if isNegative f then "-Inf" else "+Inf" := by
    simp [FloatText.positional, FloatText.special, h]
  unfold valueText
  rw [hpos]
  cases isNegative f <;> decide +kernel

theorem isNumberChar_of_mem_valueText {f : Float} (h : kind f = .finite) :
    ∀ c ∈ (valueText f).toList, isNumberChar c = true := by
  rw [valueText_of_finite h]
  split
  · exact isNumberChar_of_mem_positional h
  · intro c hc
    rw [String.toList_append, List.mem_append] at hc
    rcases hc with hc | hc
    · exact isNumberChar_of_mem_positional h c hc
    · simp only [show ".0".toList = ['.', '0'] from rfl, List.mem_cons, List.not_mem_nil,
        or_false] at hc
      rcases hc with rfl | rfl <;> decide

theorem valueText_ne_empty {f : Float} (h : kind f = .finite) : valueText f ≠ "" := by
  rw [valueText_of_finite h]
  split
  · rename_i hdot
    rintro hempty
    rw [hempty] at hdot
    simp at hdot
  · rintro hempty
    have := congrArg String.length hempty
    simp at this

theorem nameOf_of_find? {v : Float} {p : String × Float}
    (h : k.names.find? (fun p => sameValue p.2 v) = some p) : k.nameOf v = p.1 := by
  unfold ModeKind.nameOf
  rw [h]

theorem nameOf_of_find?_none {v : Float} (h : k.names.find? (fun p => sameValue p.2 v) = none) :
    k.nameOf v = valueText v := by
  unfold ModeKind.nameOf
  rw [h]

theorem nameOf_mem_of_sameValue {v : Float} (h : ∃ p ∈ k.names, sameValue p.2 v = true) :
    ∃ q ∈ k.names, k.nameOf v = q.1 ∧ sameValue q.2 v = true := by
  obtain ⟨q, hq⟩ := Option.isSome_iff_exists.mp (List.find?_isSome.mpr h)
  have hsame : sameValue q.2 v = true := by
    have := List.find?_some hq
    exact this
  exact ⟨q, List.mem_of_find?_eq_some hq, nameOf_of_find? hq, hsame⟩

theorem nameOf_of_forall_sameValue_eq_false {v : Float}
    (h : ∀ p ∈ k.names, sameValue p.2 v = false) : k.nameOf v = valueText v :=
  nameOf_of_find?_none (List.find?_eq_none.mpr fun p hp => by simp [h p hp])

example : ModeKind.edge.nameOf 0.6 = "normal" ∧ ModeKind.edge.nameOf 2 = "2.0" := by
  decide +kernel

theorem nameOf_of_infinite {v : Float} (h : kind v = .infinite) :
    k.nameOf v = if isNegative v then "-Inf" else "+Inf" := by
  rw [nameOf_of_forall_sameValue_eq_false, valueText_of_infinite h]
  intro p hp
  have hkind : kind p.2 ≠ kind v := by
    rcases k.namesFit.finite p hp with hp | hp <;> rw [hp, h] <;> decide
  cases hbits : (p.2.toBits == v.toBits)
  · simp [sameValue, hbits, h]
  · exact absurd (kind_eq_of_toBits_eq (beq_iff_eq.mp hbits)) hkind

/-- Writing a mode value and reading the text back gives an equal value, or NaN for NaN,
provided the shortest positional text of a finite value reads back as that value. -/
theorem read_nameOf (k : ModeKind) (v : Float)
    (hround : kind v = .finite → FloatText.read (FloatText.positional v) = .ok v) :
    ∃ w, k.read (k.nameOf v) = .ok w ∧
      if kind v = .nan then kind w = .nan else sameValue w v = true := by
  cases hfind : k.names.find? (fun p => sameValue p.2 v) with
  | some p =>
    have hp : p ∈ k.names := List.mem_of_find?_eq_some hfind
    have hsame : sameValue p.2 v = true := by
      have := List.find?_some hfind
      exact this
    have hnan : kind v ≠ .nan := fun h => by
      rw [sameValue_eq_false_of_nan h] at hsame
      cases hsame
    refine ⟨p.2, ?_, by rw [if_neg hnan]; exact hsame⟩
    rw [nameOf_of_find? hfind]
    exact read_name hp
  | none =>
    rw [nameOf_of_find?_none hfind]
    cases hkind : kind v with
    | nan =>
      refine ⟨_, by rw [valueText_of_nan hkind]; exact read_NaN, ?_⟩
      rw [if_pos rfl]
      decide +kernel
    | infinite =>
      have hbits := toBits_of_infinite hkind
      rw [valueText_of_infinite hkind]
      cases hneg : isNegative v
      · refine ⟨_, read_Inf, ?_⟩
        rw [if_neg (show Kind.infinite ≠ Kind.nan by decide)]
        refine sameValue_of_toBits_eq ?_ (by decide +kernel)
        simp only [hbits, hneg, Bool.false_eq_true, if_false]
        decide +kernel
      · refine ⟨_, read_negInf, ?_⟩
        rw [if_neg (show Kind.infinite ≠ Kind.nan by decide)]
        refine sameValue_of_toBits_eq ?_ (by decide +kernel)
        simp only [hbits, hneg, if_true]
        decide +kernel
    | zero =>
      obtain ⟨p, hp, hz⟩ := k.namesFit.zero
      exact absurd (sameValue_of_zero hz hkind) (List.find?_eq_none.mp hfind p hp)
    | finite =>
      refine ⟨v, read_of_isNumberChar (isNumberChar_of_mem_valueText hkind)
        (valueText_ne_empty hkind) (read_valueText hkind (hround hkind)), ?_⟩
      rw [if_neg (by decide)]
      exact sameValue_self (by rw [hkind]; decide)

/-- Reading looks only at the trimmed text in lower case, so texts that differ in letter case
or surrounding blanks read alike. -/
theorem read_eq_ok_iff_of_lower_trim_eq {s t : String}
    (h : LowerCase.lower (Blank.trim s) = LowerCase.lower (Blank.trim t)) (w : Float) :
    k.read s = .ok w ↔ k.read t = .ok w := by
  unfold ModeKind.read
  dsimp only
  rw [h]
  generalize LowerCase.lower (Blank.trim t) = u
  cases k.names.find? (·.1 == u) with
  | some p => rfl
  | none => cases FloatText.read u <;> simp

/-- Mode texts read back: a value is written as the first name of an equal value when there is
one, and as its number otherwise, infinities as `+Inf` and `-Inf`; the text reads back as an
equal value, or NaN for NaN, given that the shortest positional text of a finite value reads
back as the value; and texts that differ only in letter case or surrounding blanks read alike. -/
theorem mode_text_reads_back (k : ModeKind) (v : Float)
    (hround : kind v = .finite → FloatText.read (FloatText.positional v) = .ok v) :
    ((∃ p ∈ k.names, sameValue p.2 v = true) →
        ∃ q ∈ k.names, k.nameOf v = q.1 ∧ sameValue q.2 v = true) ∧
      ((∀ p ∈ k.names, sameValue p.2 v = false) → k.nameOf v = valueText v) ∧
      (kind v = .infinite → k.nameOf v = if isNegative v then "-Inf" else "+Inf") ∧
      (∃ w, k.read (k.nameOf v) = .ok w ∧
        if kind v = .nan then kind w = .nan else sameValue w v = true) ∧
      ∀ s t : String, LowerCase.lower (Blank.trim s) = LowerCase.lower (Blank.trim t) →
        ∀ w, k.read s = .ok w ↔ k.read t = .ok w :=
  ⟨nameOf_mem_of_sameValue, nameOf_of_forall_sameValue_eq_false, nameOf_of_infinite,
    read_nameOf k v hround, fun _ _ h w => read_eq_ok_iff_of_lower_trim_eq h w⟩

theorem mode_text_reads_back_two :
    (kind (2 : Float) = .finite → FloatText.read (FloatText.positional 2) = .ok 2) ∧
      ((∃ p ∈ ModeKind.edge.names, sameValue p.2 2 = true) →
          ∃ q ∈ ModeKind.edge.names,
            ModeKind.edge.nameOf 2 = q.1 ∧ sameValue q.2 2 = true) ∧
      ((∀ p ∈ ModeKind.edge.names, sameValue p.2 2 = false) →
        ModeKind.edge.nameOf 2 = valueText 2) ∧
      (kind (2 : Float) = .infinite →
        ModeKind.edge.nameOf 2 = if isNegative 2 then "-Inf" else "+Inf") ∧
      (∃ w, ModeKind.edge.read (ModeKind.edge.nameOf 2) = .ok w ∧
        if kind (2 : Float) = .nan then kind w = .nan else sameValue w 2 = true) ∧
      ∀ s t : String, LowerCase.lower (Blank.trim s) = LowerCase.lower (Blank.trim t) →
        ∀ w, ModeKind.edge.read s = .ok w ↔ ModeKind.edge.read t = .ok w :=
  have hround : kind (2 : Float) = .finite → FloatText.read (FloatText.positional 2) = .ok 2 :=
    fun _ => rfl
  ⟨hround, mode_text_reads_back .edge 2 hround⟩

end Keying

end KeyedComposite
