import KeyedComposite.Proofs.Normalize
import KeyedComposite.Proofs.Build

/-! # Key colours

A key colour is read from the text left after trimming blanks and at most one leading `#`
(`colorDigits`): it is read exactly when six ASCII hexadecimal digits remain, of either case,
and each pair of digits is one channel, written as its fraction of 255 with six places.
The reading goes through the UTF-8 bytes of the text, so a character outside ASCII, whose
first byte is no digit, is refused like any other non-digit.

Normalizing settings trims the key colour and puts a `#` before it when it has none, which
leaves the digits read unchanged. So the settings check accepts a key colour exactly when its
trimmed text is six hexadecimal digits or `#` and six, and a build accepts the same colours.
-/
namespace KeyedComposite

namespace Utf8

theorem toList_loop_eq (bs : ByteArray) (i : Nat) (r : List UInt8) :
    ByteArray.toList.loop bs i r = r.reverse ++ bs.data.toList.drop i := by
  induction i, r using ByteArray.toList.loop.induct bs with
  | case1 i r hlt ih =>
    rw [ByteArray.toList.loop, if_pos hlt, ih]
    have hi : i < bs.data.toList.length := by simpa using hlt
    have hget : bs.get! i = bs.data.toList[i] := by
      simp only [ByteArray.get!, Array.getElem_toList]
      exact getElem!_pos bs.data i (by simpa using hlt)
    rw [List.drop_eq_getElem_cons hi, hget]
    simp
  | case2 i r hge =>
    rw [ByteArray.toList.loop, if_neg hge]
    have : bs.data.toList.length ≤ i := by simpa using hge
    simp [List.drop_eq_nil_of_le this]

theorem toUTF8_toList (s : String) : s.toUTF8.toList = s.toList.flatMap String.utf8EncodeChar := by
  rw [ByteArray.toList, toList_loop_eq, String.toUTF8_eq_toByteArray,
    ← String.utf8Encode_toList, List.utf8Encode]
  simp

theorem utf8EncodeChar_of_lt {c : Char} (h : c.toNat < 128) :
    String.utf8EncodeChar c = [c.toUInt8] := by
  rw [String.utf8EncodeChar_eq_singleton, Char.toUInt8_val]
  rw [Char.utf8Size_eq_one_iff, UInt32.le_iff_toNat_le]
  exact Nat.le_of_lt_succ h

theorem le_toNat_or {x m : UInt8} (hm : 128 ≤ m.toNat) : 128 ≤ (x ||| m).toNat := by
  rw [UInt8.toNat_or]
  exact le_trans hm Nat.right_le_or

theorem utf8EncodeChar_head {c : Char} (h : 128 ≤ c.toNat) :
    ∃ b rest, String.utf8EncodeChar c = b :: rest ∧ 128 ≤ b.toNat := by
  have hsize : c.utf8Size ≠ 1 := by
    rw [ne_eq, Char.utf8Size_eq_one_iff, UInt32.le_iff_toNat_le]
    exact Nat.not_le_of_lt h
  have hcases : c.utf8Size = 2 ∨ c.utf8Size = 3 ∨ c.utf8Size = 4 := by
    have := Char.utf8Size_pos c
    have := Char.utf8Size_le_four c
    omega
  rcases hcases with h2 | h3 | h4
  · exact ⟨_, _, String.utf8EncodeChar_eq_cons_cons h2, le_toNat_or (by decide)⟩
  · exact ⟨_, _, String.utf8EncodeChar_eq_cons_cons_cons h3, le_toNat_or (by decide)⟩
  · exact ⟨_, _, String.utf8EncodeChar_eq_cons_cons_cons_cons h4, le_toNat_or (by decide)⟩

theorem toNat_toUInt8 {c : Char} (h : c.toNat < 128) : c.toUInt8.toNat = c.toNat := by
  simp only [Char.toUInt8, UInt32.toNat_toUInt8, Char.toNat_val]
  omega

theorem flatMap_utf8EncodeChar_of_ascii {l : List Char} (h : ∀ c ∈ l, c.toNat < 128) :
    l.flatMap String.utf8EncodeChar = l.map Char.toUInt8 := by
  induction l with
  | nil => rfl
  | cons c l ih =>
    rw [List.flatMap_cons, utf8EncodeChar_of_lt (h c (by simp)),
      ih (fun d hd => h d (by simp [hd]))]
    rfl

theorem ascii_of_flatMap_utf8EncodeChar {l : List Char}
    (h : ∀ b ∈ l.flatMap String.utf8EncodeChar, b.toNat < 128) : ∀ c ∈ l, c.toNat < 128 := by
  intro c hc
  by_contra hbig
  obtain ⟨b, rest, henc, hb⟩ := utf8EncodeChar_head (Nat.le_of_not_lt hbig)
  have hmem : b ∈ l.flatMap String.utf8EncodeChar := List.mem_flatMap.mpr ⟨c, hc, by simp [henc]⟩
  exact absurd (h b hmem) (Nat.not_lt_of_le hb)

end Utf8

namespace Keying

open Utf8

/-- What a key colour text holds once the blanks around it and at most one leading `#` are
gone. -/
def colorDigits (text : String) : List Char :=
  match (Blank.trim text).toList with
  | '#' :: rest => rest
  | cs => cs

def hexValue (c : Char) : Nat :=
  if c.isDigit then c.toNat - '0'.toNat
  else if 'a' ≤ c then c.toNat - 'a'.toNat + 10 else c.toNat - 'A'.toNat + 10

def channelText (v : Nat) : String := fixed 6 (Binary64.intQuotient (v : Int) 255)

theorem hexByteValue_toUInt8 {c : Char} (h : c.toNat < 128) :
    hexByteValue c.toUInt8 = if c.isHexDigit then some (hexValue c) else none := by
  have h0 : '0'.toNat = 48 := rfl
  have ha : 'a'.toNat = 97 := rfl
  have hA : 'A'.toNat = 65 := rfl
  simp only [hexByteValue, toNat_toUInt8 h, Char.isHexDigit, Char.isDigit, hexValue, Char.le_def,
    Char.reduceVal, ge_iff_le, UInt32.le_iff_toNat_le, UInt32.reduceToNat, Char.toNat_val,
    Bool.or_eq_true, Bool.and_eq_true, decide_eq_true_eq]
  split_ifs <;> first | rfl | omega | (congr 1; omega)

theorem hexByteValue_of_le {b : UInt8} (h : 128 ≤ b.toNat) : hexByteValue b = none := by
  simp only [hexByteValue]
  split_ifs <;> first | rfl | omega

theorem toNat_lt_of_isHexDigit {c : Char} (h : c.isHexDigit) : c.toNat < 128 := by
  simp only [Char.isHexDigit, Char.isDigit, Char.reduceVal, ge_iff_le, UInt32.le_iff_toNat_le,
    UInt32.reduceToNat, Char.toNat_val, Bool.or_eq_true, Bool.and_eq_true, decide_eq_true_eq] at h
  omega

theorem toNat_lt_of_hexByteValue {b : UInt8} {v : Nat} (h : hexByteValue b = some v) :
    b.toNat < 128 := by
  by_contra hbig
  rw [hexByteValue_of_le (Nat.le_of_not_lt hbig)] at h
  cases h

theorem readByte_eq_ok {x y : UInt8} {v : Nat} (h : readByte [x, y] = .ok v) :
    ∃ a b, hexByteValue x = some a ∧ hexByteValue y = some b ∧ v = 16 * a + b := by
  simp only [readByte] at h
  split at h
  · cases h
    exact ⟨_, _, ‹_›, ‹_›, rfl⟩
  · cases h

theorem readByte_hexDigits {a b : Char} (ha : a.isHexDigit) (hb : b.isHexDigit) :
    readByte [a.toUInt8, b.toUInt8] = .ok (16 * hexValue a + hexValue b) := by
  simp [readByte, hexByteValue_toUInt8 (toNat_lt_of_isHexDigit ha),
    hexByteValue_toUInt8 (toNat_lt_of_isHexDigit hb), ha, hb]

theorem startsWith_hash_iff (s : String) : s.startsWith "#" = true ↔ s.toList.head? = some '#' := by
  rw [String.startsWith_string_iff]
  cases s.toList <;> simp [eq_comm]

theorem colorText_toList (text : String) :
    (if (Blank.trim text).startsWith "#" = true then
        String.ofList ((Blank.trim text).toList.drop 1) else Blank.trim text).toList =
      colorDigits text := by
  rw [colorDigits]
  by_cases hs : (Blank.trim text).startsWith "#" = true
  · rw [if_pos hs]
    have hhead := (startsWith_hash_iff _).mp hs
    cases hcs : (Blank.trim text).toList with
    | nil => simp [hcs] at hhead
    | cons c rest =>
      obtain rfl : c = '#' := by simpa [hcs] using hhead
      simp
  · rw [if_neg hs]
    split
    · next rest hcs => exact absurd ((startsWith_hash_iff _).mpr (by simp [hcs])) hs
    · rfl

theorem frei0rColor_eq_ok_iff_bytes {text r : String} :
    frei0rColor text = .ok r ↔ ∃ x₁ x₂ x₃ x₄ x₅ x₆ v₁ v₂ v₃,
      (colorDigits text).flatMap String.utf8EncodeChar = [x₁, x₂, x₃, x₄, x₅, x₆] ∧
      readByte [x₁, x₂] = .ok v₁ ∧ readByte [x₃, x₄] = .ok v₂ ∧ readByte [x₅, x₆] = .ok v₃ ∧
      r = channelText v₁ ++ " " ++ channelText v₂ ++ " " ++ channelText v₃ := by
  unfold frei0rColor
  dsimp only
  rw [toUTF8_toList, colorText_toList]
  generalize (colorDigits text).flatMap String.utf8EncodeChar = B
  by_cases hlen : B.length = 6
  · obtain ⟨x₁, x₂, x₃, x₄, x₅, x₆, rfl⟩ : ∃ x₁ x₂ x₃ x₄ x₅ x₆, B = [x₁, x₂, x₃, x₄, x₅, x₆] := by
      match B, hlen with
      | [x₁, x₂, x₃, x₄, x₅, x₆], _ => exact ⟨x₁, x₂, x₃, x₄, x₅, x₆, rfl⟩
    cases h₁ : readByte [x₁, x₂] <;> cases h₂ : readByte [x₃, x₄] <;>
      cases h₃ : readByte [x₅, x₆] <;> simp [h₁, h₂, h₃, channelText, except_error_bind, eq_comm]
  · rw [if_pos hlen]
    simp only [reduceCtorEq, false_iff, not_exists, not_and]
    intro x₁ x₂ x₃ x₄ x₅ x₆ v₁ v₂ v₃ hB
    exact absurd (by simp [hB]) hlen

theorem hexDigit_of_hexByteValue {c : Char} {v : Nat} (hc : c.toNat < 128)
    (h : hexByteValue c.toUInt8 = some v) : c.isHexDigit ∧ v = hexValue c := by
  rw [hexByteValue_toUInt8 hc] at h
  split at h
  · exact ⟨‹_›, (Option.some.inj h).symm⟩
  · cases h

/-- A key colour is read exactly when six hexadecimal digits remain after trimming and at most
one leading `#`; each pair of digits gives one channel, as the fraction of 255 it makes. -/
theorem frei0rColor_eq_ok_iff (text r : String) :
    frei0rColor text = .ok r ↔
      ∃ a₁ a₂ b₁ b₂ c₁ c₂, colorDigits text = [a₁, a₂, b₁, b₂, c₁, c₂] ∧
        (∀ d ∈ [a₁, a₂, b₁, b₂, c₁, c₂], d.isHexDigit) ∧
        r = channelText (16 * hexValue a₁ + hexValue a₂) ++ " " ++
          channelText (16 * hexValue b₁ + hexValue b₂) ++ " " ++
          channelText (16 * hexValue c₁ + hexValue c₂) := by
  rw [frei0rColor_eq_ok_iff_bytes]
  constructor
  · rintro ⟨x₁, x₂, x₃, x₄, x₅, x₆, v₁, v₂, v₃, hB, h₁, h₂, h₃, rfl⟩
    obtain ⟨p₁, q₁, hp₁, hq₁, rfl⟩ := readByte_eq_ok h₁
    obtain ⟨p₂, q₂, hp₂, hq₂, rfl⟩ := readByte_eq_ok h₂
    obtain ⟨p₃, q₃, hp₃, hq₃, rfl⟩ := readByte_eq_ok h₃
    have hascii := ascii_of_flatMap_utf8EncodeChar (l := colorDigits text) (by
      rw [hB]
      simp only [List.mem_cons, List.not_mem_nil, or_false]
      rintro b (rfl | rfl | rfl | rfl | rfl | rfl) <;>
        exact toNat_lt_of_hexByteValue ‹_›)
    rw [flatMap_utf8EncodeChar_of_ascii hascii] at hB
    generalize colorDigits text = L at hB hascii ⊢
    have hlen : L.length = 6 := by simpa using congrArg List.length hB
    match L, hlen, hB, hascii with
    | [a₁, a₂, b₁, b₂, c₁, c₂], _, hB, hascii =>
      simp only [List.map_cons, List.map_nil, List.cons.injEq, and_true] at hB
      obtain ⟨rfl, rfl, rfl, rfl, rfl, rfl⟩ := hB
      have ha := fun c hc v h => hexDigit_of_hexByteValue (hascii c hc) (c := c) (v := v) h
      obtain ⟨ha₁, rfl⟩ := ha a₁ (by simp) _ hp₁
      obtain ⟨ha₂, rfl⟩ := ha a₂ (by simp) _ hq₁
      obtain ⟨hb₁, rfl⟩ := ha b₁ (by simp) _ hp₂
      obtain ⟨hb₂, rfl⟩ := ha b₂ (by simp) _ hq₂
      obtain ⟨hc₁, rfl⟩ := ha c₁ (by simp) _ hp₃
      obtain ⟨hc₂, rfl⟩ := ha c₂ (by simp) _ hq₃
      refine ⟨a₁, a₂, b₁, b₂, c₁, c₂, rfl, ?_, rfl⟩
      simp [ha₁, ha₂, hb₁, hb₂, hc₁, hc₂]
  · rintro ⟨a₁, a₂, b₁, b₂, c₁, c₂, hL, hhex, rfl⟩
    have hascii : ∀ c ∈ colorDigits text, c.toNat < 128 :=
      fun c hc => toNat_lt_of_isHexDigit (hhex c (hL ▸ hc))
    simp only [List.mem_cons, List.not_mem_nil, or_false, forall_eq_or_imp, forall_eq] at hhex
    obtain ⟨ha₁, ha₂, hb₁, hb₂, hc₁, hc₂⟩ := hhex
    refine ⟨_, _, _, _, _, _, _, _, _, ?_, readByte_hexDigits ha₁ ha₂, readByte_hexDigits hb₁ hb₂,
      readByte_hexDigits hc₁ hc₂, rfl⟩
    rw [flatMap_utf8EncodeChar_of_ascii hascii, hL]
    rfl

def SixHexDigits (cs : List Char) : Prop := cs.length = 6 ∧ ∀ c ∈ cs, c.isHexDigit

theorem exists_frei0rColor_eq_ok_iff (text : String) :
    (∃ r, frei0rColor text = .ok r) ↔ SixHexDigits (colorDigits text) := by
  simp only [frei0rColor_eq_ok_iff]
  constructor
  · rintro ⟨r, a₁, a₂, b₁, b₂, c₁, c₂, hL, hhex, -⟩
    rw [hL]
    exact ⟨rfl, hhex⟩
  · rintro ⟨hlen, hhex⟩
    obtain ⟨a₁, a₂, b₁, b₂, c₁, c₂, hL⟩ :
        ∃ a₁ a₂ b₁ b₂ c₁ c₂, colorDigits text = [a₁, a₂, b₁, b₂, c₁, c₂] := by
      match colorDigits text, hlen with
      | [a₁, a₂, b₁, b₂, c₁, c₂], _ => exact ⟨a₁, a₂, b₁, b₂, c₁, c₂, rfl⟩
    rw [hL] at hhex
    exact ⟨_, a₁, a₂, b₁, b₂, c₁, c₂, hL, hhex, rfl⟩

theorem validate_eq_ok_iff (p : Params) :
    p.validate = .ok () ↔ ∃ r, frei0rColor p.keyColor = .ok r := by
  unfold Params.validate
  cases frei0rColor p.keyColor <;> simp [bind, Except.bind, pure, Except.pure]

@[simp] theorem colorDigits_trim (text : String) : colorDigits (Blank.trim text) = colorDigits text := by
  simp [colorDigits]

theorem colorDigits_hashed {t : String} (ht : Blank.trim t = t) :
    colorDigits (Settings.hashed t) = colorDigits t := by
  have htrim := Settings.trim_hashed ht
  unfold Settings.hashed at htrim ⊢
  split_ifs at htrim ⊢ with h
  · obtain ⟨hne, hhash⟩ := h
    have hcons : ("#" ++ t).toList = '#' :: t.toList := by
      rw [String.toList_append]
      rfl
    have hhead : t.toList.head? ≠ some '#' := fun hh => by
      simp [(startsWith_hash_iff t).mpr hh] at hhash
    rw [colorDigits, htrim, hcons, colorDigits, ht]
    cases hcs : t.toList with
    | nil => rfl
    | cons c rest =>
      have hc : c ≠ '#' := fun hc => hhead (by simp [hcs, hc])
      simp [hc]
  · rfl

theorem colorDigits_normalize {w : Host.Workspace} {s n : Settings}
    (h : Settings.normalize w s = .ok n) :
    colorDigits n.keying.keyColor = colorDigits s.keying.keyColor := by
  obtain ⟨-, -, -, -, -, -, -, -, -, -, rfl⟩ := Settings.normalize_eq_ok_iff.mp h
  exact (colorDigits_hashed (Blank.trim_trim _)).trans (colorDigits_trim _)

/-- A text's digits are six hexadecimal digits exactly when, trimmed, it is six such digits or
`#` and six. -/
theorem sixHexDigits_colorDigits_iff (text : String) :
    SixHexDigits (colorDigits text) ↔
      SixHexDigits (Blank.trim text).toList ∨
        ∃ ds, (Blank.trim text).toList = '#' :: ds ∧ SixHexDigits ds := by
  have hnot : ∀ ds, ¬ SixHexDigits ('#' :: ds) := fun ds h => absurd (h.2 '#' (by simp)) (by decide)
  rw [colorDigits]
  cases hcs : (Blank.trim text).toList with
  | nil => simp [SixHexDigits]
  | cons c rest =>
    by_cases hc : c = '#'
    · subst hc
      simp [hnot]
    · simp [hc]

end Keying

namespace Composite.Builder

/-- A build succeeds exactly when the frame format is usable and the keying parameters pass
their own check. -/
theorem exists_build_eq_ok_iff (b : Builder) (ivs : List Interval) (textures : List String) :
    (∃ doc, b.build ivs textures = .ok doc) ↔
      b.format.validate = .ok () ∧ b.keying.validate = .ok () := by
  rw [Keying.validate_eq_ok_iff, ← Keying.exists_selectProperties_eq_ok_iff]
  constructor
  · rintro ⟨doc, h⟩
    obtain ⟨hv, select, hs, -⟩ := (build_eq_ok_iff b ivs textures).mp h
    exact ⟨hv, select, hs⟩
  · rintro ⟨hv, select, hs⟩
    exact ⟨_, (build_eq_ok_iff b ivs textures).mpr ⟨hv, select, hs, rfl⟩⟩

end Composite.Builder

namespace Keying

/-- The key colours that are read: exactly the texts that hold six hexadecimal digits after
trimming and at most one leading `#`, each pair giving one channel as its fraction of 255. The
settings check, on normalized settings, accepts a key colour exactly when its trimmed text is
six hexadecimal digits or `#` and six; a build accepts exactly the colours that check
accepts. -/
theorem key_colour_read_iff_six_hex_digits :
    (∀ text r, frei0rColor text = .ok r ↔
      ∃ a₁ a₂ b₁ b₂ c₁ c₂, colorDigits text = [a₁, a₂, b₁, b₂, c₁, c₂] ∧
        (∀ d ∈ [a₁, a₂, b₁, b₂, c₁, c₂], d.isHexDigit) ∧
        r = channelText (16 * hexValue a₁ + hexValue a₂) ++ " " ++
          channelText (16 * hexValue b₁ + hexValue b₂) ++ " " ++
          channelText (16 * hexValue c₁ + hexValue c₂)) ∧
    (∀ (w : Host.Workspace) (s n : Settings), Settings.normalize w s = .ok n →
      (n.keying.validate = .ok () ↔
        SixHexDigits (Blank.trim s.keying.keyColor).toList ∨
          ∃ ds, (Blank.trim s.keying.keyColor).toList = '#' :: ds ∧ SixHexDigits ds)) ∧
    (∀ (b : Composite.Builder) ivs textures,
      (∃ doc, b.build ivs textures = .ok doc) ↔
        b.format.validate = .ok () ∧ b.keying.validate = .ok ()) := by
  refine ⟨frei0rColor_eq_ok_iff, fun w s n h => ?_, Composite.Builder.exists_build_eq_ok_iff⟩
  rw [validate_eq_ok_iff, exists_frei0rColor_eq_ok_iff, colorDigits_normalize h,
    sixHexDigits_colorDigits_iff]

/-- A bare colour in blanks, `" 50519f "`, passes the check once the settings are normalized. -/
theorem key_colour_read_of_bare_digits :
    ∃ n, Settings.normalize { cwd := "/tmp", home := "/root", volume := {} }
        { Settings.standard with keying := { Settings.standard.keying with keyColor := " 50519f " } } =
          .ok n ∧ n.keying.validate = .ok () := by
  obtain ⟨n, hn⟩ := Settings.exists_normalize_eq_ok
    (w := { cwd := "/tmp", home := "/root", volume := {} }) (by decide)
    { Settings.standard with keying := { Settings.standard.keying with keyColor := " 50519f " } }
  refine ⟨n, hn, (key_colour_read_iff_six_hex_digits.2.1 _ _ _ hn).mpr (.inl ?_)⟩
  have htrim : Blank.trim " 50519f " = "50519f" := by decide
  simp only [htrim]
  exact ⟨rfl, by simp [Char.isHexDigit]⟩

end Keying

end KeyedComposite
