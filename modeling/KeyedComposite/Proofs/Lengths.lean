import KeyedComposite.Proofs.Build

/-! # Lengths in a built composite

A built composite spans `totalFrames` frames: the tractor and the black background run from
frame 0 to the total less one. The textures track holds `textureEntries`, one entry per
interval in interval order, from frame 0 for the interval's whole-frame length; the texture
producer it names has the same bounds and that length as its property. The keyed track
holds `keyedEntries`, one entry per interval over its source frames, with the bounds of the
keyed producer it names. Added as words, as a running total is, the lengths of either track
make up the total, however the sums and the last frames wrap.
-/
namespace KeyedComposite.Composite

def Entry.frames (e : Entry) : Int := e.outPoint - e.inPoint + 1

section Entries

variable (f : FrameFormat) (ivs : List Interval)

def textureEntries : List Entry :=
  ivs.zipIdx.map fun (iv, k) =>
    { producer := Ids.texture k, inPoint := 0, outPoint := iv.durationFrames f - 1 }

def keyedEntries : List Entry :=
  ivs.zipIdx.map fun (iv, k) =>
    { producer := Ids.hoodie k, inPoint := iv.mediaStartFrames f,
      outPoint := wrap64 (iv.mediaStartFrames f + iv.durationFrames f - 1) }

theorem map_frames_textureEntries :
    (textureEntries f ivs).map Entry.frames = ivs.map (·.durationFrames f) := by
  simp [textureEntries, Entry.frames, Function.comp_def, map_fst_zipIdx]

theorem map_frames_keyedEntries :
    ((keyedEntries f ivs).map Entry.frames).map wrap64 = ivs.map (·.durationFrames f) := by
  have hentry : ∀ iv : Interval, wrap64 (wrap64 (iv.mediaStartFrames f + iv.durationFrames f - 1) -
      iv.mediaStartFrames f + 1) = iv.durationFrames f := by
    intro iv
    have hd : iv.mediaStartFrames f + iv.durationFrames f - 1 - iv.mediaStartFrames f + 1 =
        iv.durationFrames f := by omega
    rw [wrap64_wrap64_sub_add, hd, wrap64_of_isWord (isWord_durationFrames f iv)]
  simp [keyedEntries, Entry.frames, Function.comp_def, hentry, map_fst_zipIdx]

theorem wordSum_frames_textureEntries :
    wordSum ((textureEntries f ivs).map Entry.frames) = totalFrames f ivs := by
  rw [map_frames_textureEntries, totalFrames_eq_wordSum]

theorem wordSum_frames_keyedEntries :
    wordSum ((keyedEntries f ivs).map Entry.frames) = totalFrames f ivs := by
  rw [totalFrames_eq_wordSum, ← map_frames_keyedEntries, wordSum_map_wrap64]

end Entries

theorem property?_length_blackProducer (total : Int) :
    (blackProducer total).property? "length" = some (decimal total) := by
  simp [blackProducer, Producer.property?]

theorem property?_length_textureProducer (p : Placement) (path : String) :
    (textureProducer p path).property? "length" = some (decimal p.length) := by
  simp [textureProducer, Producer.property?]

theorem placementAt_mem_repack (f : FrameFormat) {ivs : List Interval} {iv : Interval} {k : Nat}
    (h : (iv, k) ∈ ivs.zipIdx) : placementAt f ivs k iv ∈ (repack f ivs).1 := by
  rw [repack_fst]
  exact List.mem_map_of_mem (f := fun (iv, k) => placementAt f ivs k iv) h

namespace Builder

variable (b : Builder) (select : List Keying.Property) (ivs : List Interval)
  (textures : List String)

theorem totalFrames_composite :
    (b.composite select ivs textures).totalFrames = totalFrames b.format ivs := by
  simp only [Document.totalFrames, composite, assemble, Int.sub_zero, wrap64_wrap64_add,
    Int.sub_add_cancel]
  exact wrap64_of_isWord (isWord_totalFrames _ _)

theorem producer?_black_composite :
    (b.composite select ivs textures).producer? Ids.black =
      some (blackProducer (totalFrames b.format ivs)) :=
  (composite_wellFormed b select ivs textures).producer?_eq_some
    (p := blackProducer (totalFrames b.format ivs)) (by simp [composite, assemble])

theorem producer?_texture_composite {iv : Interval} {k : Nat} (h : (iv, k) ∈ ivs.zipIdx) :
    (b.composite select ivs textures).producer? (Ids.texture k) =
      some (textureProducer (placementAt b.format ivs k iv) (textures.getD k "")) := by
  have hp := placementAt_mem_repack b.format h
  refine (composite_wellFormed b select ivs textures).producer?_eq_some
    (p := textureProducer (placementAt b.format ivs k iv) (textures.getD k "")) ?_
  simp only [composite, assemble, List.mem_append, List.mem_map]
  exact .inl (.inr ⟨_, hp, rfl⟩)

theorem producer?_hoodie_composite {iv : Interval} {k : Nat} (h : (iv, k) ∈ ivs.zipIdx) :
    (b.composite select ivs textures).producer? (Ids.hoodie k) =
      some (b.hoodieProducer select (placementAt b.format ivs k iv)) := by
  have hp := placementAt_mem_repack b.format h
  refine (composite_wellFormed b select ivs textures).producer?_eq_some
    (p := b.hoodieProducer select (placementAt b.format ivs k iv)) ?_
  simp only [composite, assemble, List.mem_append, List.mem_map]
  exact .inl (.inl ⟨_, hp, rfl⟩)

theorem playlist?_background_composite :
    (b.composite select ivs textures).playlist? Ids.background = some
      { id := Ids.background,
        entries := [{ producer := Ids.black, outPoint := wrap64 (totalFrames b.format ivs - 1) }] } := by
  simp [Document.playlist?, composite, assemble, Ids.background, Ids.mainBin]

theorem playlist?_textures_composite :
    ∃ track, (b.composite select ivs textures).playlist? Ids.textures = some track ∧
      track.entries = textureEntries b.format ivs := by
  simp [Document.playlist?, composite, assemble, Ids.textures, Ids.background, Ids.mainBin,
    textureEntries, repack_fst, placementAt, wrap64_durationFrames_sub_one, Function.comp_def]

theorem playlist?_keyed_composite :
    ∃ track, (b.composite select ivs textures).playlist? Ids.keyed = some track ∧
      track.entries = keyedEntries b.format ivs := by
  simp [Document.playlist?, composite, assemble, Ids.keyed, Ids.textures, Ids.background,
    Ids.mainBin, keyedEntries, repack_fst, placementAt, Function.comp_def]

theorem textureEntries_resolve {e : Entry} (he : e ∈ textureEntries b.format ivs) :
    ∃ p, (b.composite select ivs textures).producer? e.producer = some p ∧
      p.inPoint = some e.inPoint ∧ p.outPoint = some e.outPoint ∧
      p.property? "length" = some (decimal e.frames) := by
  obtain ⟨⟨iv, k⟩, hmem, rfl⟩ := List.mem_map.mp he
  refine ⟨_, producer?_texture_composite b select ivs textures hmem, rfl, ?_, ?_⟩
  · simp [textureProducer, placementAt, wrap64_durationFrames_sub_one]
  · rw [property?_length_textureProducer]
    simp [Entry.frames, placementAt]

theorem keyedEntries_resolve {e : Entry} (he : e ∈ keyedEntries b.format ivs) :
    ∃ p, (b.composite select ivs textures).producer? e.producer = some p ∧
      p.inPoint = some e.inPoint ∧ p.outPoint = some e.outPoint := by
  obtain ⟨⟨iv, k⟩, hmem, rfl⟩ := List.mem_map.mp he
  exact ⟨_, producer?_hoodie_composite b select ivs textures hmem, rfl, rfl⟩

/-- Every length in a built composite is the one its interval gives. The composite spans the
interval total; the black producer is that long and the background plays it from frame 0 on.
The textures track plays, in interval order, each interval's texture from frame 0 for its
whole length, as the texture producer does, whose length property is that count; the keyed
track plays each interval's source frames, as the keyed producer does; and the lengths of
either track add up to the total. -/
theorem build_lengths_agree {doc : Document} (h : b.build ivs textures = .ok doc) :
    doc.totalFrames = totalFrames b.format ivs ∧
    (∃ black, doc.producer? Ids.black = some black ∧
      black.property? "length" = some (decimal (totalFrames b.format ivs))) ∧
    (∃ background, doc.playlist? Ids.background = some background ∧
      background.entries =
        [{ producer := Ids.black, inPoint := 0,
           outPoint := wrap64 (totalFrames b.format ivs - 1) }]) ∧
    (∃ track, doc.playlist? Ids.textures = some track ∧
      track.entries = textureEntries b.format ivs ∧
      (∀ e ∈ track.entries, ∃ p, doc.producer? e.producer = some p ∧
        p.inPoint = some e.inPoint ∧ p.outPoint = some e.outPoint ∧
        p.property? "length" = some (decimal e.frames)) ∧
      wordSum (track.entries.map Entry.frames) = totalFrames b.format ivs) ∧
    (∃ track, doc.playlist? Ids.keyed = some track ∧
      track.entries = keyedEntries b.format ivs ∧
      (∀ e ∈ track.entries, ∃ p, doc.producer? e.producer = some p ∧
        p.inPoint = some e.inPoint ∧ p.outPoint = some e.outPoint) ∧
      wordSum (track.entries.map Entry.frames) = totalFrames b.format ivs) := by
  obtain ⟨-, select, -, rfl⟩ := (build_eq_ok_iff b ivs textures).mp h
  obtain ⟨tex, htex, htexEntries⟩ := playlist?_textures_composite b select ivs textures
  obtain ⟨keyed, hkeyed, hkeyedEntries⟩ := playlist?_keyed_composite b select ivs textures
  refine ⟨totalFrames_composite b select ivs textures,
    ⟨_, producer?_black_composite b select ivs textures, property?_length_blackProducer _⟩,
    ⟨_, playlist?_background_composite b select ivs textures, rfl⟩,
    ⟨tex, htex, htexEntries, ?_, ?_⟩, ⟨keyed, hkeyed, hkeyedEntries, ?_, ?_⟩⟩
  · rw [htexEntries]
    exact fun e he => textureEntries_resolve b select ivs textures he
  · rw [htexEntries]
    exact wordSum_frames_textureEntries b.format ivs
  · rw [hkeyedEntries]
    exact fun e he => keyedEntries_resolve b select ivs textures he
  · rw [hkeyedEntries]
    exact wordSum_frames_keyedEntries b.format ivs

/-- Two clips of one and a half seconds at the standard rate build a composite whose lengths
agree. -/
theorem build_lengths_agree_standard :
    ({ format := .standard, source := "clip.mov", keying := .standard } : Builder).build
        [{ duration := 1 }, { start := 1, duration := 1 / 2 }] [] =
      .ok ((({ format := .standard, source := "clip.mov", keying := .standard } : Builder).build
        [{ duration := 1 }, { start := 1, duration := 1 / 2 }] []).toOption.getD {}) ∧
    ((({ format := .standard, source := "clip.mov", keying := .standard } : Builder).build
        [{ duration := 1 }, { start := 1, duration := 1 / 2 }] []).toOption.getD {}).totalFrames =
      totalFrames .standard [{ duration := 1 }, { start := 1, duration := 1 / 2 }] := by
  have h := except_eq_ok_getD {}
    (show (({ format := .standard, source := "clip.mov", keying := .standard } : Builder).build
      [{ duration := 1 }, { start := 1, duration := 1 / 2 }] []).isOk = true by decide +kernel)
  exact ⟨h, (build_lengths_agree _ _ _ h).1⟩

end Builder

end KeyedComposite.Composite
