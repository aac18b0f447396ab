import Mathlib
import KeyedComposite.Project.Format
import KeyedComposite.Proofs.TimeText
import KeyedComposite.Proofs.Clock

/-! # Frame rates set from a frame duration, and formats read from a project

`withFrameDuration` sets a format's rate to the inverse of a frame duration: when the duration
`p/q` (in lowest terms) is positive and both `p` and `q` are words, the rate becomes `q/p`, two
coprime positive words, and the format's frame duration is the duration read. Writing the
frame duration of a format with a coprime positive rate, with the unit, and setting it again
gives the format back. Otherwise the call is refused, for the text or for the duration, and a
caller keeps the format it had.

`formatOf` reads the format a project names. The rate it returns is positive on every path,
also beside an error, so frame counts, frame starts and clock texts at that format never
divide by zero. The format comes from the first `format` element, in document order, with
the id asked for; reading its attributes (width, height, frame duration) stops at the first
refused one, and every field that reading does not reach, or whose attribute is absent, keeps
its standard value, while a refused size keeps the word its text reads as.
-/
namespace KeyedComposite

namespace FrameFormat

variable {f g : FrameFormat} {t : String}

/-- Setting a frame duration succeeds exactly for a positive duration whose numerator and
denominator are words, and sets the rate to its inverse. -/
theorem withFrameDuration_eq_ok_iff :
    f.withFrameDuration t = .ok g ↔ ∃ d, Seconds.read t = .ok d ∧ 0 < d ∧ IsWord d.num ∧
      IsWord (d.den : Int) ∧ g = { f with rateNum := d.den, rateDen := d.num } := by
  unfold withFrameDuration
  cases hread : Seconds.read t with
  | error c => simp
  | ok d =>
    by_cases hbad : d ≤ 0 ∨ ¬ IsWord d.num ∨ ¬ IsWord (d.den : Int)
    · simp only [hbad, if_true, reduceCtorEq, false_iff, not_exists, not_and, Except.ok.injEq]
      rintro d' rfl hpos hnum hden -
      rcases hbad with hle | hbad | hbad
      · exact absurd hpos (not_lt.mpr hle)
      · exact hbad hnum
      · exact hbad hden
    · simp only [hbad, if_false, Except.ok.injEq]
      rw [not_or, not_or, not_le, not_not, not_not] at hbad
      exact ⟨fun h => ⟨d, rfl, hbad.1, hbad.2.1, hbad.2.2, h.symm⟩,
        fun h => by obtain ⟨d', hd', -, -, -, rfl⟩ := h; cases hd'; rfl⟩

/-- Setting a frame duration is refused for a text that is no time, with the reader's reason,
and for a time that is not positive or whose numerator or denominator is no word. -/
theorem withFrameDuration_eq_error_iff {e : Error} :
    f.withFrameDuration t = .error e ↔
      (∃ c, Seconds.read t = .error c ∧ e = .duration c) ∨
      ∃ d, Seconds.read t = .ok d ∧ (d ≤ 0 ∨ ¬ IsWord d.num ∨ ¬ IsWord (d.den : Int)) ∧
        e = .badDuration t := by
  unfold withFrameDuration
  cases hread : Seconds.read t with
  | error c => simp [eq_comm]
  | ok d =>
    by_cases hbad : d ≤ 0 ∨ ¬ IsWord d.num ∨ ¬ IsWord (d.den : Int)
    · simp [hbad, eq_comm]
    · simp [hbad]

/-- The rate set from a positive duration `d`: two coprime positive words whose frame duration
is `d`. -/
theorem rate_of_duration {d : Rat} (hpos : 0 < d) :
    1 ≤ (d.den : Int) ∧ 1 ≤ d.num ∧ Int.gcd d.den d.num = 1 ∧
      ({ f with rateNum := d.den, rateDen := d.num } : FrameFormat).frameDuration = some d := by
  have hden : 1 ≤ (d.den : Int) := by exact_mod_cast d.den_pos
  refine ⟨hden, Rat.num_pos.mpr hpos, ?_, ?_⟩
  · rw [Int.gcd_comm]
    exact d.reduced
  · simp only [frameDuration, if_neg (by omega : ((d.den : Int)) ≠ 0), Rat.num_divInt_den]

/-- The frame duration of a format with a coprime positive rate is read back, in lowest terms,
as the inverse of its rate. -/
theorem frameDuration_of_coprime (hnum : 0 < f.rateNum) (hden : 0 < f.rateDen)
    (hcop : Int.gcd f.rateNum f.rateDen = 1) :
    ∃ d, f.frameDuration = some d ∧ 0 < d ∧ d.num = f.rateDen ∧ (d.den : Int) = f.rateNum := by
  have hcop' : f.rateDen.natAbs.Coprime f.rateNum.natAbs := by
    rw [Nat.Coprime, Nat.gcd_comm]
    exact hcop
  refine ⟨Rat.divInt f.rateDen f.rateNum, by simp [frameDuration, hnum.ne'], ?_, ?_, ?_⟩
  · rw [Rat.divInt_eq_div]
    exact div_pos (by exact_mod_cast hden) (by exact_mod_cast hnum)
  · rw [Rat.divInt_eq_div]
    exact Rat.num_div_eq_of_coprime hnum hcop'
  · rw [Rat.divInt_eq_div]
    exact Rat.den_div_eq_of_coprime hnum hcop'

/-- Setting a duration sets the rate to its inverse, two coprime positive words whose frame
duration is the duration read, and changes nothing else. Setting the frame duration text of a
format whose rate is two coprime positive words gives the format back. A refusal is for a text
that is no time, or for a time that is not positive or does not fit in words, and returns no
format, so the caller keeps the one it had. -/
theorem withFrameDuration_sets_reduced_inverse :
    (∀ (f g : FrameFormat) (t : String), f.withFrameDuration t = .ok g →
      ∃ d, Seconds.read t = .ok d ∧ 0 < d ∧ IsWord d.num ∧ IsWord (d.den : Int) ∧
        g = { f with rateNum := d.den, rateDen := d.num } ∧
        1 ≤ g.rateNum ∧ 1 ≤ g.rateDen ∧ Int.gcd g.rateNum g.rateDen = 1 ∧
        g.frameDuration = some d) ∧
    (∀ f : FrameFormat, 0 < f.rateNum → 0 < f.rateDen → Int.gcd f.rateNum f.rateDen = 1 →
      IsWord f.rateNum → IsWord f.rateDen →
      ∃ d, f.frameDuration = some d ∧ f.withFrameDuration (Seconds.text d ++ "s") = .ok f) ∧
    (∀ (f : FrameFormat) (t : String) (e : Error), f.withFrameDuration t = .error e →
      (∃ c, Seconds.read t = .error c ∧ e = .duration c) ∨
      ∃ d, Seconds.read t = .ok d ∧ (d ≤ 0 ∨ ¬ IsWord d.num ∨ ¬ IsWord (d.den : Int)) ∧
        e = .badDuration t) := by
  refine ⟨fun f g t h => ?_, fun f hnum hden hcop hwnum hwden => ?_,
    fun f t e h => withFrameDuration_eq_error_iff.mp h⟩
  · obtain ⟨d, hread, hpos, hnum, hden, rfl⟩ := withFrameDuration_eq_ok_iff.mp h
    obtain ⟨h1, h2, hgcd, hdur⟩ := rate_of_duration (f := f) hpos
    exact ⟨d, hread, hpos, hnum, hden, rfl, h1, h2, hgcd, hdur⟩
  · obtain ⟨d, hdur, hpos, hdnum, hdden⟩ := frameDuration_of_coprime hnum hden hcop
    refine ⟨d, hdur, withFrameDuration_eq_ok_iff.mpr ⟨d, Seconds.read_text_append_unit d, hpos,
      hdnum ▸ hwden, hdden ▸ hwnum, ?_⟩⟩
    rw [hdnum, hdden]

theorem frameAt_of_rateDen_ne_zero (hden : f.rateDen ≠ 0) (t : Rat) :
    f.frameAt t = .ok (f.frames t) := by
  simp [frameAt, hden]

theorem secondsOf_of_rateNum_ne_zero (hnum : f.rateNum ≠ 0) (n : Int) :
    f.secondsOf n = .ok (Rat.divInt (mul64 n f.rateDen) f.rateNum) := by
  simp [secondsOf, hnum]

theorem exists_clock_eq_ok (hnum : f.rateNum ≠ 0) (n : Int) : ∃ c, f.clock n = .ok c := by
  simp [clock, secondsOf_of_rateNum_ne_zero hnum]

end FrameFormat

namespace Project

open Markup

def formatKey (id : String) : String := if id = "" then defaultFormatId else id

def IsFormatFor (id : String) (n : Node) : Prop :=
  n.localName = "format" ∧ n.attrOr "id" "" = formatKey id

/-- The word a size attribute leaves in its field: what its text reads as, refused or not, or
the standard value when the attribute is absent. -/
def storedSize (standard : Int) (attr : Option String) : Int :=
  attr.elim standard fun v => (readWord v).1

def SizeAccepted (attr : Option String) : Prop := ∀ v, attr = some v → (readWord v).2 = none

def sizedFormat (node : Node) : FrameFormat :=
  { FrameFormat.standard with
    width := storedSize FrameFormat.standard.width (node.attr? "width")
    height := storedSize FrameFormat.standard.height (node.attr? "height") }

/-- The element `formatOf` reads is the first one in document order that is a format element
for the id. -/
theorem find?_format_eq_some_iff {root node : Node} {id : String} :
    (root.find "format").find? (fun n => n.attrOr "id" "" == formatKey id) = some node ↔
      ∃ pre post, root.preorder = pre ++ node :: post ∧ IsFormatFor id node ∧
        ∀ n ∈ pre, ¬ IsFormatFor id n := by
  rw [Node.find, List.find?_filter, List.find?_eq_some_iff_append]
  simp only [IsFormatFor, beq_iff_eq, decide_eq_true_eq, Bool.not_eq_true', decide_eq_false_iff_not]
  constructor
  · rintro ⟨hsel, pre, post, hsplit, hpre⟩
    exact ⟨pre, post, hsplit, hsel, hpre⟩
  · rintro ⟨pre, post, hsplit, hsel, hpre⟩
    exact ⟨hsel, pre, post, hsplit, hpre⟩

theorem find?_format_eq_none_iff {root : Node} {id : String} :
    (root.find "format").find? (fun n => n.attrOr "id" "" == formatKey id) = none ↔
      ∀ n ∈ root.preorder, ¬ IsFormatFor id n := by
  rw [Node.find, List.find?_filter, List.find?_eq_none]
  simp [IsFormatFor]

@[simp] theorem storedSize_none (standard : Int) : storedSize standard none = standard := rfl

@[simp] theorem storedSize_some (standard : Int) (v : String) :
    storedSize standard (some v) = (readWord v).1 := rfl

/-- What reading the frame duration of the format element `node`, after both sizes were read,
gives for the format id `key`: the sized format with the standard rate when the attribute is
absent, the rate it sets, or the sized format beside the refusal. -/
def ReadsDuration (key : String) (node : Node) (res : FrameFormat × Option FormatError) : Prop :=
  (node.attr? "frameDuration" = none ∧ res = (sizedFormat node, none)) ∨
  (∃ v g, node.attr? "frameDuration" = some v ∧
    (sizedFormat node).withFrameDuration v = .ok g ∧ res = (g, none)) ∨
  (∃ v c, node.attr? "frameDuration" = some v ∧
    (sizedFormat node).withFrameDuration v = .error c ∧
    res = (sizedFormat node, some (.duration key c)))

/-- What reading the format element `node` for the format id `key` gives. Reading stops at the
first refused attribute, in the order width, height, frame duration: at a refused width, with
only the width set, to the word its text reads as; at a refused height, with the width read
and the height set so; otherwise both sizes are read and the frame duration decides. -/
def ReadsFormat (key : String) (node : Node) (res : FrameFormat × Option FormatError) : Prop :=
  (∃ v c, node.attr? "width" = some v ∧ (readWord v).2 = some c ∧
    res = ({ FrameFormat.standard with width := (readWord v).1 }, some (.width key v c))) ∨
  (SizeAccepted (node.attr? "width") ∧ ∃ v c, node.attr? "height" = some v ∧
    (readWord v).2 = some c ∧
    res = ({ FrameFormat.standard with
      width := storedSize FrameFormat.standard.width (node.attr? "width"),
      height := (readWord v).1 }, some (.height key v c))) ∨
  (SizeAccepted (node.attr? "width") ∧ SizeAccepted (node.attr? "height") ∧
    ReadsDuration key node res)

theorem readsDuration_of_cases {key : String} {node : Node} {res : FrameFormat × Option FormatError}
    (hnone : node.attr? "frameDuration" = none → res = (sizedFormat node, none))
    (hok : ∀ v g, node.attr? "frameDuration" = some v →
      (sizedFormat node).withFrameDuration v = .ok g → res = (g, none))
    (herror : ∀ v c, node.attr? "frameDuration" = some v →
      (sizedFormat node).withFrameDuration v = .error c →
      res = (sizedFormat node, some (.duration key c))) :
    ReadsDuration key node res := by
  rcases (node.attr? "frameDuration").eq_none_or_eq_some with hd | ⟨v, hd⟩
  · exact .inl ⟨hd, hnone hd⟩
  · cases hg : (sizedFormat node).withFrameDuration v with
    | ok g => exact .inr (.inl ⟨v, g, hd, hg, hok v g hd hg⟩)
    | error c => exact .inr (.inr ⟨v, c, hd, hg, herror v c hd hg⟩)

theorem exists_of_not_sizeAccepted {a : Option String} (h : ¬ SizeAccepted a) :
    ∃ v c, a = some v ∧ (readWord v).2 = some c := by
  simp only [SizeAccepted, not_forall] at h
  obtain ⟨v, hv, hne⟩ := h
  obtain ⟨c, hc⟩ := Option.ne_none_iff_exists'.mp hne
  exact ⟨v, c, hv, hc⟩

theorem sizeAccepted_cases {a : Option String} (h : SizeAccepted a) :
    a = none ∨ ∃ v x, a = some v ∧ readWord v = (x, none) := by
  rcases a.eq_none_or_eq_some with ha | ⟨v, ha⟩
  · exact .inl ha
  · exact .inr ⟨v, (readWord v).1, ha, Prod.ext rfl (h v ha)⟩

section Stages

variable {root node : Node} {id : String}
  (hsel : (root.find "format").find? (fun n => n.attrOr "id" "" == formatKey id) = some node)
include hsel

theorem formatOf_of_width_refused {v : String} {c : NumberError}
    (hw : node.attr? "width" = some v) (hx : (readWord v).2 = some c) :
    formatOf root id =
      ({ FrameFormat.standard with width := (readWord v).1 }, some (.width (formatKey id) v c)) := by
  rcases hr : readWord v with ⟨x, e⟩
  simp only [hr] at hx ⊢
  subst hx
  simp [formatOf, ← formatKey.eq_1, hsel, hw, hr]

theorem formatOf_of_height_refused {v : String} {c : NumberError}
    (hwa : SizeAccepted (node.attr? "width")) (hh : node.attr? "height" = some v)
    (hy : (readWord v).2 = some c) :
    formatOf root id =
      ({ FrameFormat.standard with
          width := storedSize FrameFormat.standard.width (node.attr? "width"),
          height := (readWord v).1 }, some (.height (formatKey id) v c)) := by
  rcases hr : readWord v with ⟨y, e⟩
  simp only [hr] at hy ⊢
  subst hy
  rcases sizeAccepted_cases hwa with hw | ⟨u, x, hw, hx⟩
  · simp [formatOf, ← formatKey.eq_1, hsel, hw, hh, hr]
  · simp [formatOf, ← formatKey.eq_1, hsel, hw, hx, hh, hr]

variable (hwa : SizeAccepted (node.attr? "width")) (hha : SizeAccepted (node.attr? "height"))
include hwa hha

theorem formatOf_of_duration_absent (hd : node.attr? "frameDuration" = none) :
    formatOf root id = (sizedFormat node, none) := by
  rcases sizeAccepted_cases hwa with hw | ⟨u, x, hw, hx⟩ <;>
    rcases sizeAccepted_cases hha with hh | ⟨v, y, hh, hy⟩ <;>
    simp_all [formatOf, ← formatKey.eq_1, sizedFormat, FrameFormat.standard]

theorem formatOf_of_duration_set {v : String} {g : FrameFormat}
    (hd : node.attr? "frameDuration" = some v) (hg : (sizedFormat node).withFrameDuration v = .ok g) :
    formatOf root id = (g, none) := by
  rcases sizeAccepted_cases hwa with hw | ⟨u, x, hw, hx⟩ <;>
    rcases sizeAccepted_cases hha with hh | ⟨w, y, hh, hy⟩ <;>
    simp_all [formatOf, ← formatKey.eq_1, sizedFormat, FrameFormat.standard]

theorem formatOf_of_duration_refused {v : String} {c : FrameFormat.Error}
    (hd : node.attr? "frameDuration" = some v)
    (hg : (sizedFormat node).withFrameDuration v = .error c) :
    formatOf root id = (sizedFormat node, some (.duration (formatKey id) c)) := by
  rcases sizeAccepted_cases hwa with hw | ⟨u, x, hw, hx⟩ <;>
    rcases sizeAccepted_cases hha with hh | ⟨w, y, hh, hy⟩ <;>
    simp_all [formatOf, ← formatKey.eq_1, sizedFormat, FrameFormat.standard]

end Stages

theorem formatOf_cases {root node : Node} {id : String}
    (hsel : (root.find "format").find? (fun n => n.attrOr "id" "" == formatKey id) = some node) :
    ReadsFormat (formatKey id) node (formatOf root id) := by
  by_cases hwa : SizeAccepted (node.attr? "width")
  case neg =>
    obtain ⟨v, c, hw, hx⟩ := exists_of_not_sizeAccepted hwa
    exact .inl ⟨v, c, hw, hx, formatOf_of_width_refused hsel hw hx⟩
  by_cases hha : SizeAccepted (node.attr? "height")
  case neg =>
    obtain ⟨v, c, hh, hy⟩ := exists_of_not_sizeAccepted hha
    exact .inr (.inl ⟨hwa, v, c, hh, hy, formatOf_of_height_refused hsel hwa hh hy⟩)
  exact .inr (.inr ⟨hwa, hha, readsDuration_of_cases (formatOf_of_duration_absent hsel hwa hha)
    (fun _ _ hd hg => formatOf_of_duration_set hsel hwa hha hd hg)
    (fun _ _ hd hg => formatOf_of_duration_refused hsel hwa hha hd hg)⟩)

theorem formatOf_of_find?_eq_none {root : Node} {id : String}
    (hsel : (root.find "format").find? (fun n => n.attrOr "id" "" == formatKey id) = none) :
    formatOf root id = (FrameFormat.standard, none) := by
  simp [formatOf, ← formatKey.eq_1, hsel]

/-- Every way of reading a format element leaves a positive rate: the standard one, or one set
from a positive duration. -/
theorem rates_of_readsFormat {key : String} {node : Node} {res : FrameFormat × Option FormatError}
    (h : ReadsFormat key node res) : 1 ≤ res.1.rateNum ∧ 1 ≤ res.1.rateDen := by
  rcases h with ⟨-, -, -, -, rfl⟩ | ⟨-, -, -, -, -, -, rfl⟩ |
    ⟨-, -, ⟨-, rfl⟩ | ⟨v, g, -, hg, rfl⟩ | ⟨-, -, -, -, rfl⟩⟩
  · simp [FrameFormat.standard]
  · simp [FrameFormat.standard]
  · simp [sizedFormat, FrameFormat.standard]
  · obtain ⟨d, -, hpos, -, -, rfl⟩ := FrameFormat.withFrameDuration_eq_ok_iff.mp hg
    obtain ⟨hnum, hden, -, -⟩ := FrameFormat.rate_of_duration (f := sizedFormat node) hpos
    exact ⟨hnum, hden⟩
  · simp [sizedFormat, FrameFormat.standard]

theorem rates_formatOf (root : Node) (id : String) :
    1 ≤ (formatOf root id).1.rateNum ∧ 1 ≤ (formatOf root id).1.rateDen := by
  cases hsel : (root.find "format").find? (fun n => n.attrOr "id" "" == formatKey id) with
  | none =>
    rw [formatOf_of_find?_eq_none hsel]
    exact ⟨by decide, by decide⟩
  | some node => exact rates_of_readsFormat (formatOf_cases hsel)

/-- The format a project names, with or without an error, has a positive rate, so counting the
frames of a time, the start of a frame and a frame's clock text never divide by zero there.
It comes from the first `format` element in document order whose id is the one asked for
(`r1` for the empty id), or is the standard format when there is none, and that element is
read as `ReadsFormat` says: each attribute that is absent, or that reading stops before,
keeps the standard value, and a refused width or height keeps the word its text reads as. -/
theorem formatOf_keeps_rates_positive (root : Node) (id : String) :
    (1 ≤ (formatOf root id).1.rateNum ∧ 1 ≤ (formatOf root id).1.rateDen) ∧
    (∀ t, (formatOf root id).1.frameAt t = .ok ((formatOf root id).1.frames t)) ∧
    (∀ n, ∃ s, (formatOf root id).1.secondsOf n = .ok s) ∧
    (∀ n, ∃ c, (formatOf root id).1.clock n = .ok c) ∧
    ((∀ n ∈ root.preorder, ¬ IsFormatFor id n) → formatOf root id = (FrameFormat.standard, none)) ∧
    ∀ pre node post, root.preorder = pre ++ node :: post → IsFormatFor id node →
      (∀ n ∈ pre, ¬ IsFormatFor id n) → ReadsFormat (formatKey id) node (formatOf root id) := by
  obtain ⟨hnum, hden⟩ := rates_formatOf root id
  refine ⟨⟨hnum, hden⟩, FrameFormat.frameAt_of_rateDen_ne_zero (by omega),
    fun n => ⟨_, FrameFormat.secondsOf_of_rateNum_ne_zero (by omega) n⟩,
    FrameFormat.exists_clock_eq_ok (by omega), fun hnone => ?_, fun pre node post hsplit hsel hpre => ?_⟩
  · exact formatOf_of_find?_eq_none (find?_format_eq_none_iff.mpr hnone)
  · exact formatOf_cases (find?_format_eq_some_iff.mpr ⟨pre, post, hsplit, hsel, hpre⟩)

example : (formatOf (.mk ⟨"", "format"⟩ [⟨⟨"", "id"⟩, "r1"⟩, ⟨⟨"", "width"⟩, "wide"⟩,
    ⟨⟨"", "frameDuration"⟩, "1/25s"⟩] []) "").1 = { FrameFormat.standard with width := 0 } := by
  decide

end Project

end KeyedComposite
