import KeyedComposite.Proofs.Lengths
import KeyedComposite.Proofs.Extraction

/-! # Extracted clips play in source order

Extraction sorts the keyed clips by their exact start times and numbers them by position;
the composite names its `k`-th keyed entry by the position `k` and starts it at the `k`-th
interval's first source frame. Whole-frame counts are floors of the times scaled by the
rate, so at a positive rate they keep the order of the times as long as no count leaves a
word (`FramesFit`). Then the keyed track plays the clips in source order, the `k`-th entry
is the `k`-th interval's keyed producer, and the `k`-th texture and keyed entries both start
after the lengths of the intervals before them.
-/
namespace KeyedComposite

namespace FrameFormat

def exactFrames (f : FrameFormat) (t : Rat) : Int := (t * Rat.divInt f.rateNum f.rateDen).floor

theorem exactFrames_mono {f : FrameFormat} (hn : 0 < f.rateNum) (hd : 0 < f.rateDen)
    {s t : Rat} (h : s ≤ t) : f.exactFrames s ≤ f.exactFrames t :=
  Rat.floor_monotone (Rat.mul_le_mul_of_nonneg_right h (Rat.divInt_nonneg hn.le hd.le))

theorem validate_eq_ok {f : FrameFormat} (hw : 0 < f.width) (hh : 0 < f.height)
    (hn : 0 < f.rateNum) (hd : 0 < f.rateDen) : f.validate = .ok () := by
  have hsize : ¬(f.width ≤ 0 ∨ f.height ≤ 0) := by omega
  have hrate : ¬(f.rateNum ≤ 0 ∨ f.rateDen ≤ 0) := by omega
  simp only [validate, hsize, hrate, if_false]

end FrameFormat

/-- The frame counts of an interval fit in a word: its first source frame, its length and its
last source frame, counted exactly. -/
structure FramesFit (f : FrameFormat) (iv : Interval) : Prop where
  start : IsWord (f.exactFrames iv.start)
  duration : IsWord (f.exactFrames iv.duration)
  last : IsWord (f.exactFrames iv.start + max 0 (f.exactFrames iv.duration) - 1)

namespace FramesFit

variable {f : FrameFormat} {iv : Interval} (h : FramesFit f iv)
include h

theorem mediaStartFrames_eq : iv.mediaStartFrames f = f.exactFrames iv.start :=
  wrap64_of_isWord h.start

theorem durationFrames_eq : iv.durationFrames f = max 0 (f.exactFrames iv.duration) := by
  unfold Interval.durationFrames FrameFormat.frames
  rw [← FrameFormat.exactFrames, wrap64_of_isWord h.duration]

theorem wrap64_last :
    wrap64 (iv.mediaStartFrames f + iv.durationFrames f - 1) =
      iv.mediaStartFrames f + iv.durationFrames f - 1 := by
  rw [h.mediaStartFrames_eq, h.durationFrames_eq]
  exact wrap64_of_isWord h.last

end FramesFit

namespace Composite

variable {f : FrameFormat} {ivs : List Interval}

/-- For intervals numbered by position whose frame counts fit, the keyed track names each
interval's keyed producer by its own number and reads its source frames unwrapped. -/
theorem keyedEntries_eq_map
    (hidx : ∀ (k : Nat) (iv : Interval), ivs[k]? = some iv → iv.index = k)
    (hfit : ∀ iv ∈ ivs, FramesFit f iv) :
    keyedEntries f ivs = ivs.map fun iv =>
      { producer := Ids.hoodie iv.index, inPoint := iv.mediaStartFrames f,
        outPoint := iv.mediaStartFrames f + iv.durationFrames f - 1 } := by
  unfold keyedEntries
  conv_rhs => rw [← map_fst_zipIdx]
  apply List.map_congr_left
  rintro ⟨iv, k⟩ hmem
  have hk := hidx k iv (List.mem_zipIdx_iff_getElem?.mp hmem)
  have hlast := (hfit iv (List.fst_mem_of_mem_zipIdx hmem)).wrap64_last
  simp only [hk, hlast]

theorem map_frames_keyedEntries_of_fit (hfit : ∀ iv ∈ ivs, FramesFit f iv) :
    (keyedEntries f ivs).map Entry.frames = ivs.map (·.durationFrames f) := by
  unfold keyedEntries
  rw [List.map_map]
  conv_rhs => rw [← map_fst_zipIdx]
  apply List.map_congr_left
  rintro ⟨iv, k⟩ hmem
  have hlast := (hfit iv (List.fst_mem_of_mem_zipIdx hmem)).wrap64_last
  simp only [Function.comp_apply, Entry.frames, hlast]
  omega

/-- Entries whose lengths are the intervals' lengths start, one after another, where the
lengths before them end. -/
theorem sum_take_frames {entries : List Entry}
    (h : entries.map Entry.frames = ivs.map (·.durationFrames f)) (k : Nat) :
    ((entries.take k).map Entry.frames).sum = ((ivs.take k).map (·.durationFrames f)).sum := by
  rw [List.map_take, h, ← List.map_take]

theorem pairwise_mediaStartFrames (hn : 0 < f.rateNum) (hd : 0 < f.rateDen)
    (hsorted : ivs.Pairwise fun a b => a.start ≤ b.start) (hfit : ∀ iv ∈ ivs, FramesFit f iv) :
    ivs.Pairwise fun a b => a.mediaStartFrames f ≤ b.mediaStartFrames f := by
  refine hsorted.imp_of_mem fun {a b} ha hb hab => ?_
  rw [(hfit a ha).mediaStartFrames_eq, (hfit b hb).mediaStartFrames_eq]
  exact FrameFormat.exactFrames_mono hn hd hab

namespace Builder

/-- The composite built from an extraction plays the keyed clips in source order. At a
positive size and rate and with a usable key colour, a build over the extracted intervals
succeeds whenever their frame counts fit in words. Its keyed track holds, in order, each
interval's keyed producer, named by the interval's number, which is its position, from the
interval's first source frame on; these first frames never decrease. The `k`-th texture and
keyed entries both start where the lengths of the first `k` intervals end. -/
theorem build_plays_extracted_in_source_order (root : Markup.Node) (o : Project.ExtractOptions)
    {normalize : String → String} (b : Builder) (textures : List String) {ivs : List Interval}
    (hw : 0 < b.format.width) (hh : 0 < b.format.height) (hn : 0 < b.format.rateNum)
    (hd : 0 < b.format.rateDen) (hcolor : ∃ c, Keying.frei0rColor b.keying.keyColor = .ok c)
    (hext : Project.extract root o normalize = .ok ivs)
    (hfit : ∀ iv ∈ ivs, FramesFit b.format iv) :
    ∃ doc, b.build ivs textures = .ok doc ∧
      ∃ keyed tex, doc.playlist? Ids.keyed = some keyed ∧ doc.playlist? Ids.textures = some tex ∧
        keyed.entries = ivs.map (fun iv =>
          { producer := Ids.hoodie iv.index, inPoint := iv.mediaStartFrames b.format,
            outPoint := iv.mediaStartFrames b.format + iv.durationFrames b.format - 1 }) ∧
        (∀ (k : Nat) (iv : Interval), ivs[k]? = some iv → iv.index = k) ∧
        keyed.entries.Pairwise (fun e e' => e.inPoint ≤ e'.inPoint) ∧
        tex.entries = textureEntries b.format ivs ∧
        ∀ k, ((keyed.entries.take k).map Entry.frames).sum =
            ((ivs.take k).map (·.durationFrames b.format)).sum ∧
          ((tex.entries.take k).map Entry.frames).sum =
            ((ivs.take k).map (·.durationFrames b.format)).sum := by
  obtain ⟨hsorted, hidx⟩ := Project.sorted_of_extract_eq_ok root o normalize hext
  obtain ⟨select, hselect⟩ := (Keying.exists_selectProperties_eq_ok_iff _).mpr hcolor
  have hbuild := (build_eq_ok_iff b ivs textures).mpr
    ⟨FrameFormat.validate_eq_ok hw hh hn hd, select, hselect, rfl⟩
  obtain ⟨keyed, hkeyed, hkeyedEntries⟩ := playlist?_keyed_composite b select ivs textures
  obtain ⟨tex, htex, htexEntries⟩ := playlist?_textures_composite b select ivs textures
  refine ⟨_, hbuild, keyed, tex, hkeyed, htex, ?_, hidx, ?_, htexEntries, fun k => ⟨?_, ?_⟩⟩
  · rw [hkeyedEntries, keyedEntries_eq_map hidx hfit]
  · rw [hkeyedEntries, keyedEntries_eq_map hidx hfit, List.pairwise_map]
    exact pairwise_mediaStartFrames hn hd hsorted hfit
  · rw [hkeyedEntries]
    exact sum_take_frames (map_frames_keyedEntries_of_fit hfit) k
  · rw [htexEntries]
    exact sum_take_frames (map_frames_textureEntries b.format ivs) k

/-- Two keyed clips around a gap, the first starting at 2 s and the second at 0 s: the build
over their extraction plays the second clip first. -/
theorem build_plays_extracted_in_source_order_spine :
    let spine : Markup.Node := .mk ⟨"", "spine"⟩ [] [
      .mk ⟨"", "clip"⟩ [⟨⟨"", "name"⟩, "Unkillible Hoodie A"⟩, ⟨⟨"", "start"⟩, "2s"⟩]
        [.mk ⟨"", "video"⟩ [⟨⟨"", "ref"⟩, "r8"⟩] []],
      .mk ⟨"", "gap"⟩ [] [],
      .mk ⟨"", "clip"⟩ [⟨⟨"", "name"⟩, "Unkillible Hoodie A"⟩]
        [.mk ⟨"", "video"⟩ [⟨⟨"", "ref"⟩, "r8"⟩] []]]
    let b : Builder := { format := .standard, source := "clip.mov", keying := .standard }
    let ivs : List Interval := [{ parent := "Unkillible Hoodie A" },
      { index := 1, start := 2, parent := "Unkillible Hoodie A" }]
    (0 < b.format.width ∧ 0 < b.format.height ∧ 0 < b.format.rateNum ∧ 0 < b.format.rateDen) ∧
      (∃ c, Keying.frei0rColor b.keying.keyColor = .ok c) ∧
      Project.extract spine {} = .ok ivs ∧ (∀ iv ∈ ivs, FramesFit b.format iv) ∧
      ∃ doc, b.build ivs [] = .ok doc ∧ ∃ keyed, doc.playlist? Ids.keyed = some keyed ∧
        keyed.entries.Pairwise fun e e' => e.inPoint ≤ e'.inPoint := by
  intro spine b ivs
  have hcut : Blank.cut "2" "/" = none := by
    have hsplit : ("2" : String).splitOn "/" = ["2"] := by
      rw [String.splitOn, if_neg (by decide), String.splitOnAux, if_neg (by decide),
        if_neg (by decide), String.splitOnAux, if_pos (by decide)]
      decide
    unfold Blank.cut
    rw [hsplit]
  have htwo : Seconds.read "2s" = .ok 2 :=
    Seconds.read_of_cut_eq_none (by decide) (by decide) hcut (by decide +kernel)
  have hext : Project.extract spine {} = .ok ivs := by
    simp only [spine, ivs]
    simp [Project.extract, Project.readMatches, Markup.Node.visits, Markup.Node.visitsAll,
      Project.isKeyedClip, Markup.Node.localName, Markup.Node.name,
      Project.ExtractOptions.withDefaults, Project.defaultClipName, Project.defaultAssetId,
      Project.referencesAsset, Markup.Node.childrenNamed, Markup.Node.children,
      Markup.Node.attrOr, Markup.Node.attr?, Markup.Node.attrs, Project.readInterval,
      Project.readTime, Project.TimeField.word, Seconds.read_zero_seconds, htwo,
      Except.mapError, Project.parentName]
    rw [List.mergeSort]
    simp
  have hcolor : ∃ c, Keying.frei0rColor b.keying.keyColor = .ok c :=
    ⟨_, except_eq_ok_getD "" (by simp only [b]; decide +kernel)⟩
  have hfit : ∀ iv ∈ ivs, FramesFit b.format iv := by
    intro iv hiv
    simp only [ivs, List.mem_cons, List.mem_nil_iff, or_false] at hiv
    rcases hiv with rfl | rfl <;>
      exact ⟨by decide +kernel, by decide +kernel, by decide +kernel⟩
  have hsize : 0 < b.format.width ∧ 0 < b.format.height ∧ 0 < b.format.rateNum ∧
      0 < b.format.rateDen := by
    simp only [b]
    decide
  obtain ⟨doc, hdoc, keyed, -, hkeyed, -, -, -, hpairwise, -⟩ :=
    build_plays_extracted_in_source_order spine {} b [] hsize.1 hsize.2.1 hsize.2.2.1
      hsize.2.2.2 hcolor hext hfit
  exact ⟨hsize, hcolor, hext, hfit, doc, hdoc, keyed, hkeyed, hpairwise⟩

end Builder

end Composite

end KeyedComposite
