import Mathlib
import KeyedComposite.Conversion.Run
import KeyedComposite.Proofs.Extraction

/-! # The stages of a conversion run

A run is a straight line of stages, each of which may end it: preparing (the project, its
format, the source video and the intervals), the dry-run stop, the texture directory, the
texture attempts, the build, and the write under the output's lock. This module says once
what each stage does, as one equation of `run` per way a stage can end it, so that what a
whole run does follows from the stage that ended it.

The texture attempts look at the context before each attempt: they go to the end while it
stays live, and stop at the first attempt that finds it cancelled. Extraction numbers the
intervals by position, so the `i`-th attempt asks for the `i`-th texture path and reports
the `i`-th interval.
-/
namespace KeyedComposite.Conversion

open Host

theorem builder_with_textures (o : Options) (s : Summary) (paths : Option (List String))
    (n : Nat) : o.builder { s with texturePaths := paths, fallbacks := n } = o.builder s := rfl

section Stages

variable {o : Options} {w : Workspace} {s : Summary}

/-- What a prepared summary holds: the project's format, the source video and the
extracted intervals, with their total and nothing else. -/
theorem prepare_eq_ok (h : prepare o w = .ok s) :
    ∃ root, readProject w o.project = .ok root ∧
      Project.formatOf root o.formatId = (s.format, none) ∧
      resolveSource o root = .ok s.source ∧
      Project.extract root { assetId := o.assetId, clipName := o.clipName } = .ok s.intervals ∧
      s = { runId := Uuid.ofRandom w.random, format := s.format, source := s.source,
            intervals := s.intervals, totalFrames := totalFrames s.format s.intervals } := by
  unfold prepare at h
  cases hr : readProject w o.project with
  | error e => simp [hr] at h
  | ok root =>
    rcases hf : Project.formatOf root o.formatId with ⟨format, _ | fe⟩
    case some => simp [hr, hf] at h
    case none =>
      cases hs : resolveSource o root with
      | error e => simp [hr, hf, hs] at h
      | ok source =>
        cases he : Project.extract root { assetId := o.assetId, clipName := o.clipName } with
        | error e => simp [hr, hf, hs, he, Except.mapError] at h
        | ok ivs =>
          simp only [hr, hf, hs, he, Except.mapError, except_ok_bind, except_pure_eq_ok] at h
          subst h
          exact ⟨root, rfl, hf, hs, he, rfl⟩

theorem totalFrames_of_prepare_eq_ok (h : prepare o w = .ok s) :
    s.totalFrames = totalFrames s.format s.intervals := by
  obtain ⟨-, -, -, -, -, hs⟩ := prepare_eq_ok h
  rw [hs]

variable (ctx : Context)

theorem run_of_prepare_error {e : RunError} (h : prepare o w = .error e) :
    run o w ctx = ⟨[], .error e, w⟩ := by
  simp [run, h]

theorem run_of_dryRun (h : prepare o w = .ok s) (hdry : o.dryRun = true) :
    run o w ctx = ⟨[], .ok s, w⟩ := by
  simp [run, h, hdry]

variable (hprep : prepare o w = .ok s) (hwet : o.dryRun = false)
include hprep hwet

theorem run_of_textureDir_error {e : RunError}
    (hdir : textureDirReady o s.intervals w = .error e) : run o w ctx = ⟨[], .error e, w⟩ := by
  simp [run, hprep, hwet, hdir]

variable {w₁ : Workspace} {paths : List String}
  (hdir : textureDirReady o s.intervals w = .ok w₁)
include hdir

theorem run_of_cancelled {c : Stop}
    (hatt : attemptsFrom o ctx s.format 0 s.intervals = (paths, some c)) :
    run o w ctx = ⟨progressOf s.intervals paths, .error (.cancelled c), w₁⟩ := by
  simp [run, hprep, hwet, hdir, hatt]

theorem run_of_build_error {e : Composite.BuildError}
    (hatt : attemptsFrom o ctx s.format 0 s.intervals = (paths, none))
    (hbuild : (o.builder s).build s.intervals paths = .error e) :
    run o w ctx = ⟨progressOf s.intervals paths, .error (.build e), w₁⟩ := by
  simp only [run, hprep, hwet, hdir, hatt, Bool.false_eq_true, if_false]
  rw [builder_with_textures, hbuild]

theorem run_of_built {doc : Composite.Document}
    (hatt : attemptsFrom o ctx s.format 0 s.intervals = (paths, none))
    (hbuild : (o.builder s).build s.intervals paths = .ok doc) :
    run o w ctx =
      let built :=
        { s with texturePaths := some paths, fallbacks := (paths.filter (· = "")).length,
                 document := some doc }
      let written := writeAndRender o doc built w₁
      ⟨progressOf s.intervals paths, written.2, written.1⟩ := by
  simp only [run, hprep, hwet, hdir, hatt, Bool.false_eq_true, if_false]
  rw [builder_with_textures, hbuild]

end Stages

section Attempts

variable (o : Options) (ctx : Context) (f : FrameFormat)

theorem attemptsFrom_of_live :
    ∀ (i : Nat) (ivs : List Interval), (∀ j < ivs.length, ctx.stopAt (i + j) = none) →
      attemptsFrom o ctx f i ivs = (ivs.map (textureOf o f), none)
  | _, [], _ => rfl
  | i, iv :: ivs, hlive => by
    have hi : ctx.stopAt i = none := by simpa using hlive 0 (by simp)
    have hrest := attemptsFrom_of_live (i + 1) ivs fun j hj => by
      simpa [Nat.add_assoc, Nat.add_comm 1] using hlive (j + 1) (by simpa using hj)
    simp [attemptsFrom, hi, hrest]

theorem attemptsFrom_of_stop {c : Stop} :
    ∀ (i k : Nat) (ivs : List Interval), k < ivs.length →
      (∀ j < k, ctx.stopAt (i + j) = none) → ctx.stopAt (i + k) = some c →
      attemptsFrom o ctx f i ivs = ((ivs.take k).map (textureOf o f), some c)
  | _, _, [], hk, _, _ => absurd hk (Nat.not_lt_zero _)
  | i, 0, iv :: ivs, _, _, hc => by
    rw [Nat.add_zero] at hc
    simp [attemptsFrom, hc]
  | i, k + 1, iv :: ivs, hk, hlive, hc => by
    have hi : ctx.stopAt i = none := by simpa using hlive 0 (by simp)
    have hrest := attemptsFrom_of_stop (i + 1) k ivs (by simpa using hk)
      (fun j hj => by simpa [Nat.add_assoc, Nat.add_comm 1] using hlive (j + 1) (by omega))
      (by simpa [Nat.add_assoc, Nat.add_comm 1] using hc)
    simp [attemptsFrom, hi, hrest]

end Attempts

section Numbered

variable (o : Options) (f : FrameFormat)

/-- The path the texture attempt for the `i`-th interval leaves it: the maker is asked for the
`i`-th texture path, and a failure leaves none. -/
def Options.attemptPath (i : Nat) (iv : Interval) : String :=
  match o.textures with
  | .solid => ""
  | .maker make => (make iv (Texture.outputPath o.textureDir i) f).kept

def Numbered (ivs : List Interval) : Prop :=
  ∀ (k : Nat) (iv : Interval), ivs[k]? = some iv → iv.index = k

theorem numbered_of_prepare_eq_ok {w : Workspace} {s : Summary} (h : prepare o w = .ok s) :
    Numbered s.intervals := by
  obtain ⟨root, -, -, -, hext, -⟩ := prepare_eq_ok h
  exact (Project.sorted_of_extract_eq_ok _ _ _ hext).2

theorem textureOf_eq_attemptPath {iv : Interval} {i : Nat} (h : iv.index = i) :
    textureOf o f iv = o.attemptPath f i iv := by
  unfold textureOf Options.attemptPath
  cases o.textures with
  | solid => rfl
  | maker make => rw [h]

variable {o f} {ivs : List Interval} (hnum : Numbered ivs)
include hnum

theorem map_textureOf_of_numbered : ivs.map (textureOf o f) = ivs.mapIdx (o.attemptPath f) := by
  apply List.ext_getElem (by simp)
  intro k hk _
  have hk' : k < ivs.length := by simpa using hk
  have hindex : ivs[k].index = k := hnum k _ (List.getElem?_eq_getElem hk')
  rw [List.getElem_map, List.getElem_mapIdx]
  exact textureOf_eq_attemptPath o f hindex

theorem progressOf_of_numbered (paths : List String) (hlen : paths.length ≤ ivs.length) :
    progressOf ivs paths =
      paths.mapIdx fun i p => { done := i + 1, total := ivs.length, index := i, path := p } := by
  apply List.ext_getElem (by simp [progressOf]; omega)
  intro k hk _
  have hk' : k < ivs.length := by simp [progressOf] at hk; omega
  have hindex : ivs[k].index = k := hnum k _ (List.getElem?_eq_getElem hk')
  simp [progressOf, hindex]

end Numbered

section Write

variable (o : Options)

theorem renderStep_eq_with (s : Summary) :
    renderStep o s = { s with renderOutput := (renderStep o s).renderOutput,
                              renderError := (renderStep o s).renderError } := by
  unfold renderStep
  split
  · split
    · rfl
    · split <;> rfl
  · rfl

theorem writeAndRender_eq_ok {doc : Composite.Document} {s r : Summary} {w : Workspace}
    (h : (writeAndRender o doc s w).2 = .ok r) :
    r = renderStep o { s with outputPath := o.output } := by
  unfold writeAndRender at h
  dsimp only at h
  split at h
  · cases h
  · split at h
    · cases h
    · cases h
    · split at h
      · cases h
      · simpa using h.symm

end Write

end KeyedComposite.Conversion
