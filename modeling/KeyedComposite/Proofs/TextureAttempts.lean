import Mathlib
import KeyedComposite.Proofs.RunStages
import KeyedComposite.Proofs.Lengths
import KeyedComposite.Proofs.IdNames

/-! # Texture attempts and their fallbacks

A run that reaches its textures makes one attempt per interval, in interval order, and
looks at its context before each: the first attempt that finds it cancelled is not made
and the run stops with the context's error. Attempt `i` asks the texture maker for the
`i`-th texture path and keeps the path it answers, or none when it fails, whatever path
came with the failure; each attempt is reported as the `i + 1`-th of all.

The intervals left without a path are the run's fallbacks. The composite counts them the
same way: its texture producers are `texture_0` to `texture_{n-1}`, one per interval, and
the `i`-th plays the `i`-th path through `avformat`, or the `i`-th palette colour through
`color` when that path is empty. The two agree because the builder finds an interval's
path by its number, and extraction numbers the intervals by position.
-/
namespace KeyedComposite

namespace Composite

/-- A texture producer plays its file through `avformat`, or else the palette colour of its
placement through `color`. -/
theorem textureProducer_plays (p : Placement) (path : String) :
    (textureProducer p path).property? "mlt_service" =
        some (if path = "" then "color" else "avformat") ∧
      (textureProducer p path).property? "resource" =
        some (if path = "" then Ids.paletteAt p.index else path) := by
  by_cases h : path = "" <;> simp [textureProducer, Producer.property?, h]

def textureServices (doc : Document) (n : Nat) : List (Option String) :=
  (List.range n).map fun (i : Nat) =>
    (doc.producer? (Ids.texture i)).bind (·.property? "mlt_service")

def serviceOf (path : String) : Option String := some (if path = "" then "color" else "avformat")

theorem count_map_serviceOf (paths : List String) :
    (paths.map serviceOf).count (some "color") = paths.count "" ∧
      (paths.map serviceOf).count (some "avformat") = paths.length - paths.count "" := by
  induction paths with
  | nil => simp
  | cons path paths ih =>
    have hle := List.count_le_length (a := "") (l := paths)
    by_cases h : path = ""
    · simp [serviceOf, h, ih]
    · simp [serviceOf, h, ih]
      omega

namespace Builder

variable (b : Builder) (select : List Keying.Property) (ivs : List Interval)
  (textures : List String)

theorem producer?_texture_composite_isSome (k : Int) :
    ((b.composite select ivs textures).producer? (Ids.texture k)).isSome ↔
      0 ≤ k ∧ k < ivs.length := by
  constructor
  · intro h
    obtain ⟨p, hp⟩ := Option.isSome_iff_exists.mp h
    have hid : p.id = Ids.texture k := by simpa using List.find?_some hp
    have hmem : p ∈ (b.composite select ivs textures).producers := List.mem_of_find?_eq_some hp
    simp only [composite, assemble, List.mem_append, List.mem_map, List.mem_singleton] at hmem
    rcases hmem with (⟨q, -, rfl⟩ | ⟨q, hq, rfl⟩) | rfl
    · cases (Ids.Name.text_inj (a := .hoodie q.index) (b := .texture k)).mp hid
    · have hk := Ids.Name.texture.inj ((Ids.Name.text_inj (a := .texture q.index)
        (b := .texture k)).mp hid)
      have hq' : q.index ∈ List.range ivs.length := by
        rw [← map_index_repack b.format ivs]
        exact List.mem_map_of_mem hq
      rw [List.mem_range] at hq'
      omega
    · cases (Ids.Name.text_inj (a := .black) (b := .texture k)).mp hid
  · rintro ⟨h0, hk⟩
    lift k to Nat using h0
    have hk' : k < ivs.length := by omega
    have hmem : (ivs[k], k) ∈ ivs.zipIdx := List.mem_zipIdx_iff_getElem?.mpr (by simp)
    simp [producer?_texture_composite b select ivs textures hmem]

theorem textureServices_composite (hlen : textures.length = ivs.length) :
    textureServices (b.composite select ivs textures) ivs.length = textures.map serviceOf := by
  apply List.ext_getElem (by simp [textureServices, hlen])
  intro i hi _
  have hi' : i < ivs.length := by simpa [textureServices] using hi
  have hmem : (ivs[i], i) ∈ ivs.zipIdx := List.mem_zipIdx_iff_getElem?.mpr (by simp)
  have hpath : textures.getD i "" = textures[i] := by simp [hlen, hi']
  simp only [textureServices, List.getElem_map, List.getElem_range]
  rw [producer?_texture_composite b select ivs textures hmem, Option.bind_some,
    (textureProducer_plays _ _).1, hpath]
  rfl

/-- The texture producers of a built composite: `texture_0` to `texture_{n-1}`, the `i`-th
playing the `i`-th texture path or else the `i`-th palette colour, so that as many play a
colour as there are empty paths. -/
theorem build_texture_producers {doc : Document} (h : b.build ivs textures = .ok doc)
    (hlen : textures.length = ivs.length) :
    (∀ k : Int, (doc.producer? (Ids.texture k)).isSome ↔ 0 ≤ k ∧ k < ivs.length) ∧
    (∀ (i : Nat) (path : String), textures[i]? = some path →
      ∃ p, doc.producer? (Ids.texture i) = some p ∧
        if path = "" then
          p.property? "mlt_service" = some "color" ∧
            p.property? "resource" = some (Ids.paletteAt i)
        else p.property? "mlt_service" = some "avformat" ∧ p.property? "resource" = some path) ∧
    (textureServices doc ivs.length).count (some "color") = textures.count "" ∧
    (textureServices doc ivs.length).count (some "avformat") = ivs.length - textures.count "" ∧
    doc.totalFrames = totalFrames b.format ivs := by
  obtain ⟨-, select, -, rfl⟩ := (build_eq_ok_iff b ivs textures).mp h
  have hcounts := count_map_serviceOf textures
  rw [hlen] at hcounts
  refine ⟨producer?_texture_composite_isSome b select ivs textures,
    fun i path hpath => ?_, ?_, ?_, totalFrames_composite b select ivs textures⟩
  · have hi : i < ivs.length := hlen ▸ (List.getElem?_eq_some_iff.mp hpath).1
    have hmem : (ivs[i], i) ∈ ivs.zipIdx := List.mem_zipIdx_iff_getElem?.mpr (by simp)
    have hplays := textureProducer_plays (placementAt b.format ivs i ivs[i]) path
    refine ⟨_, producer?_texture_composite b select ivs textures hmem, ?_⟩
    rw [List.getD_eq_getElem?_getD, hpath, Option.getD_some]
    by_cases hempty : path = ""
    · simpa [hempty, placementAt] using hplays
    · simpa [hempty] using hplays
  · rw [textureServices_composite b select ivs textures hlen]
    exact hcounts.1
  · rw [textureServices_composite b select ivs textures hlen]
    exact hcounts.2

end Builder

end Composite

namespace Conversion

open Host

theorem mapIdx_take {α β : Type} (f : Nat → α → β) (l : List α) (k : Nat) :
    (l.take k).mapIdx f = (l.mapIdx f).take k :=
  List.ext_getElem (by simp) fun i _ _ => by simp

section Reached

variable {o : Options} {w w₁ : Workspace} {s : Summary} (ctx : Context)
  (hprep : prepare o w = .ok s) (hwet : o.dryRun = false)
  (hdir : textureDirReady o s.intervals w = .ok w₁)
include hprep hwet hdir

/-- A context first found cancelled before attempt `k` stops the run there, after the
reports of the attempts before it. -/
theorem run_of_first_stop {k : Nat} {c : Stop} (hk : k < s.intervals.length)
    (hlive : ∀ j < k, ctx.stopAt j = none) (hc : ctx.stopAt k = some c) :
    run o w ctx =
      ⟨((s.intervals.mapIdx (o.attemptPath s.format)).mapIdx fun i p =>
          { done := i + 1, total := s.intervals.length, index := i, path := p }).take k,
        .error (.cancelled c), w₁⟩ := by
  have hnum := numbered_of_prepare_eq_ok o hprep
  have hatt := attemptsFrom_of_stop o ctx s.format 0 k s.intervals hk (by simpa using hlive)
    (by simpa using hc)
  rw [run_of_cancelled ctx hprep hwet hdir hatt, List.map_take, map_textureOf_of_numbered hnum,
    progressOf_of_numbered hnum _ (by simp), mapIdx_take]

/-- While the context stays live, every interval gets its attempt and its report, and a run
that succeeds keeps the paths, counts the empty ones as fallbacks and holds the composite
built over them. -/
theorem run_of_live_context (hlive : ∀ j < s.intervals.length, ctx.stopAt j = none) :
    let paths := s.intervals.mapIdx (o.attemptPath s.format)
    (run o w ctx).progress = paths.mapIdx (fun i p =>
        { done := i + 1, total := s.intervals.length, index := i, path := p }) ∧
    ∀ r, (run o w ctx).result = .ok r →
      r.texturePaths = some paths ∧ r.fallbacks = paths.count "" ∧
      ∃ doc, r.document = some doc ∧ (o.builder s).build s.intervals paths = .ok doc ∧
        r.totalFrames = doc.totalFrames := by
  intro paths
  have hnum := numbered_of_prepare_eq_ok o hprep
  have hatt : attemptsFrom o ctx s.format 0 s.intervals = (paths, none) := by
    rw [attemptsFrom_of_live o ctx s.format 0 s.intervals (by simpa using hlive),
      map_textureOf_of_numbered hnum]
  have hprogress := progressOf_of_numbered hnum paths (by simp [paths])
  cases hbuild : (o.builder s).build s.intervals paths with
  | error e =>
    rw [run_of_build_error ctx hprep hwet hdir hatt hbuild]
    exact ⟨hprogress, fun r hr => by cases hr⟩
  | ok doc =>
    rw [run_of_built ctx hprep hwet hdir hatt hbuild]
    refine ⟨hprogress, fun r hr => ?_⟩
    dsimp only at hr
    rw [writeAndRender_eq_ok o hr, renderStep_eq_with]
    have htotal := ((o.builder s).build_texture_producers s.intervals paths hbuild
      (by simp [paths])).2.2.2.2
    have hprepared := totalFrames_of_prepare_eq_ok hprep
    have hfallbacks : (paths.filter (· = "")).length = paths.count "" := by
      rw [List.count_eq_length_filter]
      rfl
    refine ⟨rfl, hfallbacks, doc, rfl, rfl, ?_⟩
    rw [htotal]
    exact hprepared

end Reached

/-- A run that reaches its textures makes one attempt per interval in order, the `i`-th
asking for the `i`-th texture path and reported as the `i + 1`-th of all, until its context
is found cancelled. Once all are made, the empty paths are the fallbacks: a composite built
over the paths has a texture producer for each interval and no other, and as many of them
play their palette colour through `color` as there are fallbacks, the rest playing their
path through `avformat`; it is as long as the run's total. -/
theorem run_attempts_textures_in_order {o : Options} {w w₁ : Workspace} {s : Summary}
    (ctx : Context) (hprep : prepare o w = .ok s) (hwet : o.dryRun = false)
    (hdir : textureDirReady o s.intervals w = .ok w₁) :
    let n := s.intervals.length
    let paths := s.intervals.mapIdx (o.attemptPath s.format)
    let reports := paths.mapIdx fun i p =>
      ({ done := i + 1, total := n, index := i, path := p } : Progress)
    (∀ k < n, (∀ j < k, ctx.stopAt j = none) → ∀ c, ctx.stopAt k = some c →
      run o w ctx = ⟨reports.take k, .error (.cancelled c), w₁⟩) ∧
    ((∀ j < n, ctx.stopAt j = none) →
      (run o w ctx).progress = reports ∧
      (∀ r, (run o w ctx).result = .ok r →
        r.texturePaths = some paths ∧ r.fallbacks = paths.count "" ∧
        ∃ doc, r.document = some doc ∧ (o.builder s).build s.intervals paths = .ok doc ∧
          r.totalFrames = doc.totalFrames) ∧
      ∀ doc, (o.builder s).build s.intervals paths = .ok doc →
        (∀ k : Int, (doc.producer? (Ids.texture k)).isSome ↔ 0 ≤ k ∧ k < n) ∧
        (∀ (i : Nat) (path : String), paths[i]? = some path →
          ∃ p, doc.producer? (Ids.texture i) = some p ∧
            if path = "" then
              p.property? "mlt_service" = some "color" ∧
                p.property? "resource" = some (Ids.paletteAt i)
            else
              p.property? "mlt_service" = some "avformat" ∧
                p.property? "resource" = some path) ∧
        (Composite.textureServices doc n).count (some "color") = paths.count "" ∧
        (Composite.textureServices doc n).count (some "avformat") = n - paths.count "" ∧
        doc.totalFrames = s.totalFrames) := by
  intro n paths reports
  refine ⟨fun k hk hlive c hc => run_of_first_stop ctx hprep hwet hdir hk hlive hc,
    fun hlive => ?_⟩
  obtain ⟨hprogress, hresult⟩ := run_of_live_context ctx hprep hwet hdir hlive
  refine ⟨hprogress, hresult, fun doc hdoc => ?_⟩
  obtain ⟨hsome, hplays, hcolor, havformat, htotal⟩ :=
    (o.builder s).build_texture_producers s.intervals paths hdoc (by simp [paths])
  have hprepared := totalFrames_of_prepare_eq_ok hprep
  exact ⟨hsome, hplays, hcolor, havformat, htotal.trans hprepared.symm⟩

/-- Two keyed clips and a maker that writes the first texture and fails on the second: the
run reports both attempts, keeps the first path, and counts one fallback, which its
composite plays in colour. -/
theorem run_attempts_textures_in_order_two_clips :
    let w : Workspace :=
      { cwd := "/", home := "",
        volume := ⟨[("/p.fcpxml", .file
          ("<spine><clip name=\"Unkillible Hoodie A\"><video ref=\"r8\"/></clip>" ++
            "<clip name=\"Unkillible Hoodie A\"><video ref=\"r8\"/></clip></spine>"))]⟩ }
    let o : Options :=
      { project := "p.fcpxml", sourceVideo := "clip.mov", output := "out.mlt", textureDir := "tex",
        keying := .standard,
        textures := .maker fun iv out _ => if iv.index = 0 then .ok out else .error "unsupported" }
    ∃ s w₁, prepare o w = .ok s ∧ o.dryRun = false ∧
      textureDirReady o s.intervals w = .ok w₁ ∧
      (run o w).progress =
        [{ done := 1, total := 2, index := 0, path := "tex/texture_00.mp4" },
         { done := 2, total := 2, index := 1, path := "" }] ∧
      ∃ r, (run o w).result = .ok r ∧ r.fallbacks = 1 ∧
        ∃ doc, r.document = some doc ∧
          (Composite.textureServices doc 2).count (some "color") = 1 := by
  intro w o
  let clip : Markup.Node := .mk ⟨"", "clip"⟩ [⟨⟨"", "name"⟩, "Unkillible Hoodie A"⟩]
    [.mk ⟨"", "video"⟩ [⟨⟨"", "ref"⟩, "r8"⟩] []]
  let ivs : List Interval :=
    [{ parent := "Unkillible Hoodie A" }, { index := 1, parent := "Unkillible Hoodie A" }]
  have hread : readProject w o.project = .ok (.mk ⟨"", "spine"⟩ [] [clip, clip]) := by
    rw [except_eq_ok_getD (x := readProject w o.project) clip (by decide +kernel)]
    congr 1
    decide +kernel
  have hext : Project.extract (.mk ⟨"", "spine"⟩ [] [clip, clip]) {} = .ok ivs := by
    simp [clip, ivs, Project.extract, Project.readMatches, Markup.Node.visits,
      Markup.Node.visitsAll, Project.isKeyedClip, Markup.Node.localName, Markup.Node.name,
      Project.ExtractOptions.withDefaults, Project.defaultClipName, Project.defaultAssetId,
      Project.referencesAsset, Markup.Node.childrenNamed, Markup.Node.children,
      Markup.Node.attrOr, Markup.Node.attr?, Markup.Node.attrs, Project.readInterval,
      Project.readTime, Project.TimeField.word, Seconds.read_zero_seconds,
      Except.mapError, Project.parentName]
    rw [List.mergeSort]
    simp
  have hformat :
      Project.formatOf (.mk ⟨"", "spine"⟩ [] [clip, clip]) o.formatId = (.standard, none) := rfl
  have hsource : resolveSource o (.mk ⟨"", "spine"⟩ [] [clip, clip]) = .ok "clip.mov" := rfl
  let s : Summary :=
    { runId := Uuid.ofRandom w.random, format := .standard, source := "clip.mov",
      intervals := ivs, totalFrames := totalFrames .standard ivs }
  have hprep : prepare o w = .ok s := by
    simp only [prepare, hread, hformat, hsource, except_ok_bind]
    rw [show ({ assetId := o.assetId, clipName := o.clipName } : Project.ExtractOptions) = {}
      from rfl, hext]
    rfl
  have hdir := except_eq_ok_getD (x := textureDirReady o ivs w) w (by decide +kernel)
  obtain ⟨-, hlive⟩ := run_attempts_textures_in_order .background hprep rfl hdir
  obtain ⟨hprogress, hresult, hbuilt⟩ := hlive fun _ _ => rfl
  have hatt : attemptsFrom o .background .standard 0 ivs = (["tex/texture_00.mp4", ""], none) := by
    decide +kernel
  have hbuild := except_eq_ok_getD (x := (o.builder s).build ivs ["tex/texture_00.mp4", ""]) {}
    (by decide +kernel)
  have hwritten : (run o w).result.isOk = true := by
    rw [run_of_built .background hprep rfl hdir hatt hbuild]
    decide +kernel
  obtain ⟨r, hr⟩ : ∃ r, (run o w).result = .ok r := ⟨_, except_eq_ok_getD s hwritten⟩
  obtain ⟨-, hfallbacks, doc, hdoc, hdocBuild, -⟩ := hresult r hr
  obtain ⟨-, -, hcolor, -, -⟩ := hbuilt doc hdocBuild
  refine ⟨_, _, hprep, rfl, hdir, ?_, r, hr, hfallbacks.trans (by decide +kernel), doc, hdoc,
    hcolor.trans (by decide +kernel)⟩
  rw [hprogress]
  decide +kernel

end Conversion

end KeyedComposite
