import Mathlib
import KeyedComposite.Proofs.RunStages
import KeyedComposite.Proofs.Files

/-! # Where a run stops, and what it leaves behind

Every stage of a run before the write can end it with an error: reading the project, its
format, its source (looked up before the clips are read), the texture directory, a context
found cancelled, the build, and an output lock held by another run. None of them writes a
file, and the write is the last thing that can fail: a run that fails leaves every file as it
found it (`Keeps`). A dry run stops after preparing. A run that succeeds has written its
composite at the output, under a lock no other run held, and gave the lock file back; its
render, when one is asked for, only records how it went.

The write step and the run each get one inversion lemma (`writeAndRender_cases`,
`run_cases`) naming every way they can end; the facts below are case analyses over them.
-/
namespace KeyedComposite.Conversion

open Host

section Preparing

variable {o : Options} {w : Workspace}

theorem fields_of_prepare_eq_ok {s : Summary} (h : prepare o w = .ok s) :
    s.texturePaths = none ∧ s.document = none ∧ s.renderOutput = "" ∧
      s.renderError = none := by
  obtain ⟨-, -, -, -, -, hs⟩ := prepare_eq_ok h
  rw [hs]
  exact ⟨rfl, rfl, rfl, rfl⟩

/-- With no source video given and no media for the asset, preparing fails on the source,
whatever the clips hold: the source is looked up before the clips are read. -/
theorem prepare_of_source_unresolved {root : Markup.Node}
    (hread : readProject w o.project = .ok root)
    (hformat : (Project.formatOf root o.formatId).2 = none) (hvideo : o.sourceVideo = "")
    (hmedia : Project.sourcePath root
      (if o.assetId = "" then Project.defaultAssetId else o.assetId) = "") :
    prepare o w = .error
      (.sourceUnresolved (if o.assetId = "" then Project.defaultAssetId else o.assetId)) := by
  have hsource : resolveSource o root = .error
      (.sourceUnresolved (if o.assetId = "" then Project.defaultAssetId else o.assetId)) := by
    simp [resolveSource, hvideo, hmedia]
  rcases hf : Project.formatOf root o.formatId with ⟨format, _ | fe⟩
  case some => simp [hf] at hformat
  case none => simp [prepare, hread, hf, hsource]

theorem readProject_ne_create (path p : String) (e : PathError) :
    readProject w path ≠ .error (.create p e) := by
  unfold readProject
  split
  · split <;> simp
  · rename_i text _
    cases Markup.Node.parse text <;> simp [Except.mapError]

theorem resolveSource_ne_create (root : Markup.Node) (p : String) (e : PathError) :
    resolveSource o root ≠ .error (.create p e) := by
  unfold resolveSource
  dsimp only
  split_ifs <;> simp

theorem prepare_ne_create (p : String) (e : PathError) : prepare o w ≠ .error (.create p e) := by
  intro h
  unfold prepare at h
  cases hr : readProject w o.project with
  | error e' =>
    simp only [hr, except_error_bind, Except.error.injEq] at h
    subst h
    exact readProject_ne_create o.project p e hr
  | ok root =>
    rcases hf : Project.formatOf root o.formatId with ⟨format, _ | fe⟩
    case some => simp [hr, hf, throw, throwThe, MonadExceptOf.throw] at h
    case none =>
      cases hs : resolveSource o root with
      | error e' =>
        simp only [hr, hf, hs, except_ok_bind, except_error_bind, Except.error.injEq] at h
        subst h
        exact resolveSource_ne_create root p e hs
      | ok source =>
        cases he : Project.extract root { assetId := o.assetId, clipName := o.clipName } <;>
          simp [hr, hf, hs, he, Except.mapError] at h

end Preparing

theorem textureDirReady_keeps {o : Options} {ivs : List Interval} {w w₁ : Workspace}
    (h : textureDirReady o ivs w = .ok w₁) : Keeps w w₁ := by
  unfold textureDirReady at h
  split at h
  · cases h
    exact Keeps.refl w
  · split at h
    · cases h
      exact Keeps.refl w
    · cases hmk : w.mkdirAll o.textureDir with
      | error e => simp [hmk, Except.mapError] at h
      | ok w' =>
        simp only [hmk, Except.mapError, Except.ok.injEq] at h
        subst h
        exact Workspace.mkdirAll_keeps hmk

theorem textureDirReady_eq_error {o : Options} {ivs : List Interval} {w : Workspace}
    {e : RunError} (h : textureDirReady o ivs w = .error e) : ∃ pe, e = .textureDir pe := by
  unfold textureDirReady at h
  split at h
  · cases h
  · split at h
    · cases h
    · cases hmk : w.mkdirAll o.textureDir with
      | error pe =>
        simp only [hmk, Except.mapError, Except.error.injEq] at h
        exact ⟨pe, h.symm⟩
      | ok w' => simp [hmk, Except.mapError] at h

theorem live_of_attemptsFrom_eq {o : Options} {ctx : Context} {f : FrameFormat} :
    ∀ {i : Nat} {ivs : List Interval} {paths : List String},
      attemptsFrom o ctx f i ivs = (paths, none) → ∀ j < ivs.length, ctx.stopAt (i + j) = none
  | _, [], _, _, j, hj => absurd hj (Nat.not_lt_zero j)
  | i, iv :: ivs, paths, h, j, hj => by
    unfold attemptsFrom at h
    split at h
    · cases h
    · rename_i hi
      rcases hrest : attemptsFrom o ctx f (i + 1) ivs with ⟨rest, stop⟩
      simp only [hrest, Prod.mk.injEq] at h
      obtain ⟨-, rfl⟩ := h
      cases j with
      | zero => simpa using hi
      | succ j =>
        have := live_of_attemptsFrom_eq hrest j (by simpa using hj)
        rwa [Nat.add_assoc, Nat.add_comm 1] at this

section Write

variable (o : Options) (doc : Composite.Document) (s : Summary) (w : Workspace)

/-- The ways the write can end: the output directory cannot be made, the lock cannot be
opened or is held by another run, the composite cannot be written, or it is written. Once
the lock is taken, the lock file is removed on either way out. -/
theorem writeAndRender_cases :
    (∃ e, w.mkdirAll (PathName.dir o.output) = .error e ∧
      writeAndRender o doc s w = (w, .error (.outputDir e))) ∨
    ∃ w₂, w.mkdirAll (PathName.dir o.output) = .ok w₂ ∧
      ((∃ e, w₂.tryLock (o.output ++ ".lock") = .error e ∧
          writeAndRender o doc s w = (w₂, .error (.lock (o.output ++ ".lock") e))) ∨
       (w₂.tryLock (o.output ++ ".lock") = .ok none ∧
          writeAndRender o doc s w = (w₂, .error (.locked o.output))) ∨
       ∃ w₃, w₂.tryLock (o.output ++ ".lock") = .ok (some w₃) ∧
         ((∃ e, w₃.writeFile o.output doc.encode = .error e ∧
             writeAndRender o doc s w =
               (w₃.remove (o.output ++ ".lock"), .error (.create o.output e))) ∨
          ∃ w₄, w₃.writeFile o.output doc.encode = .ok w₄ ∧
             writeAndRender o doc s w =
               (w₄.remove (o.output ++ ".lock"),
                 .ok (renderStep o { s with outputPath := o.output })))) := by
  unfold writeAndRender
  dsimp only
  cases hdir : w.mkdirAll (PathName.dir o.output) with
  | error e => exact .inl ⟨e, rfl, rfl⟩
  | ok w₂ =>
    refine .inr ⟨w₂, rfl, ?_⟩
    cases hlock : w₂.tryLock (o.output ++ ".lock") with
    | error e => exact .inl ⟨e, rfl, by simp only [hlock]⟩
    | ok taken =>
      cases taken with
      | none => exact .inr (.inl ⟨rfl, by simp only [hlock]⟩)
      | some w₃ =>
        refine .inr (.inr ⟨w₃, rfl, ?_⟩)
        cases hwrite : w₃.writeFile o.output doc.encode with
        | error e => exact .inl ⟨e, rfl, by simp only [hlock, hwrite]⟩
        | ok w₄ => exact .inr ⟨w₄, rfl, by simp only [hlock, hwrite]⟩

variable {o doc s w}

/-- A write that fails leaves every file as it was: the lock file it may have made is
removed, and a composite that cannot be written is not there. -/
theorem writeAndRender_keeps_of_error {e : RunError}
    (h : (writeAndRender o doc s w).2 = .error e) : Keeps w (writeAndRender o doc s w).1 := by
  rcases writeAndRender_cases o doc s w with ⟨_, -, heq⟩ |
      ⟨w₂, hdir, ⟨_, -, heq⟩ | ⟨-, heq⟩ | ⟨w₃, hlock, ⟨_, -, heq⟩ | ⟨w₄, -, heq⟩⟩⟩ <;>
    rewrite [heq] at h ⊢
  · exact Keeps.refl w
  · exact Workspace.mkdirAll_keeps hdir
  · exact Workspace.mkdirAll_keeps hdir
  · obtain ⟨hcwd, hheld, hrest⟩ := Workspace.tryLock_eq_some hlock
    exact (Workspace.mkdirAll_keeps hdir).trans (Keeps.remove_of_frame hcwd hheld hrest)
  · cases h

theorem writeAndRender_held : (writeAndRender o doc s w).1.held = w.held := by
  rcases writeAndRender_cases o doc s w with ⟨_, -, heq⟩ |
      ⟨w₂, hdir, ⟨_, -, heq⟩ | ⟨-, heq⟩ | ⟨w₃, hlock, ⟨_, -, heq⟩ | ⟨w₄, hwrite, heq⟩⟩⟩ <;>
    rewrite [heq]
  · rfl
  · exact (Workspace.mkdirAll_keeps hdir).held
  · exact (Workspace.mkdirAll_keeps hdir).held
  · exact (Workspace.tryLock_eq_some hlock).2.1.trans (Workspace.mkdirAll_keeps hdir).held
  · calc (w₄.remove (o.output ++ ".lock")).held
        = w₃.held := (Workspace.writeFile_eq_ok hwrite).2.1
      _ = w₂.held := (Workspace.tryLock_eq_some hlock).2.1
      _ = w.held := (Workspace.mkdirAll_keeps hdir).held

/-- A successful write took a lock no other run held, left the composite at the output and
the lock file removed; the summary is then rendered. -/
theorem writeAndRender_written {r : Summary} (h : (writeAndRender o doc s w).2 = .ok r) :
    w.absolute (o.output ++ ".lock") ∉ w.held ∧
      (writeAndRender o doc s w).1.volume.get? (w.absolute o.output) = some (.file doc.encode) ∧
      (writeAndRender o doc s w).1.fileText? (o.output ++ ".lock") = none ∧
      r = renderStep o { s with outputPath := o.output } := by
  rcases writeAndRender_cases o doc s w with ⟨_, -, heq⟩ |
      ⟨w₂, hdir, ⟨_, -, heq⟩ | ⟨-, heq⟩ | ⟨w₃, hlock, ⟨_, -, heq⟩ | ⟨w₄, hwrite, heq⟩⟩⟩ <;>
    rw [heq] at h ⊢ <;> try cases h
  have hkeep := Workspace.mkdirAll_keeps hdir
  obtain ⟨hcwd₃, -, -⟩ := Workspace.tryLock_eq_some hlock
  obtain ⟨hcwd₄, -, hwritten, -⟩ := Workspace.writeFile_eq_ok hwrite
  have habs₂ : w₂.absolute = w.absolute := funext (Workspace.absolute_congr hkeep.cwd)
  have habs₃ : w₃.absolute = w.absolute :=
    funext (Workspace.absolute_congr (hcwd₃.trans hkeep.cwd))
  have habs₄ : w₄.absolute = w.absolute :=
    funext (Workspace.absolute_congr (hcwd₄.trans (hcwd₃.trans hkeep.cwd)))
  refine ⟨?_, ?_, Workspace.fileText?_remove_self w₄ _, rfl⟩
  · have hfree := Workspace.tryLock_eq_some_free hlock
    rwa [habs₂, hkeep.held] at hfree
  · have hne : w.absolute o.output ≠ w₄.absolute (o.output ++ ".lock") := by
      rw [habs₄]
      exact (Workspace.absolute_lock_ne w o.output).symm
    rw [Workspace.remove, Volume.get?_erase_ne _ hne, ← habs₃]
    exact hwritten

theorem writeAndRender_releases_of_create {p : String} {e : PathError}
    (h : (writeAndRender o doc s w).2 = .error (.create p e)) :
    (writeAndRender o doc s w).1.fileText? (o.output ++ ".lock") = none := by
  rcases writeAndRender_cases o doc s w with ⟨_, -, heq⟩ |
      ⟨w₂, -, ⟨_, -, heq⟩ | ⟨-, heq⟩ | ⟨w₃, -, ⟨_, -, heq⟩ | ⟨w₄, -, heq⟩⟩⟩ <;>
    rw [heq] at h ⊢ <;> simp only [Except.error.injEq, reduceCtorEq] at h
  · exact Workspace.fileText?_remove_self w₃ _

end Write

section Render

variable (o : Options) {s : Summary}

/-- A render is recorded as done exactly when an output and a renderer are given and the
renderer succeeds. -/
theorem rendered_renderStep (hout : s.renderOutput = "") (herr : s.renderError = none) :
    (renderStep o s).rendered = true ↔ o.renderOutput ≠ "" ∧
      ∃ render, o.renderer = some render ∧ render o.output o.renderOutput = .ok () := by
  unfold renderStep
  cases hr : o.renderer with
  | none => simp [Summary.rendered, hout]
  | some render =>
    by_cases ho : o.renderOutput = ""
    · simp [ho, Summary.rendered, hout]
    · cases hres : render o.output o.renderOutput with
      | ok u => simp [ho, hres, Summary.rendered, herr]
      | error why => simp [ho, hres, Summary.rendered]

theorem renderError_renderStep (herr : s.renderError = none) (why : String) :
    (renderStep o s).renderError = some why ↔ o.renderOutput ≠ "" ∧
      ∃ render, o.renderer = some render ∧ render o.output o.renderOutput = .error why := by
  unfold renderStep
  cases hr : o.renderer with
  | none => simp [herr]
  | some render =>
    by_cases ho : o.renderOutput = ""
    · simp [ho, herr]
    · cases hres : render o.output o.renderOutput with
      | ok u => simp [ho, hres, herr]
      | error e => simp [ho, hres]

end Render

section Run

variable (o : Options) (w : Workspace) (ctx : Context)

theorem run_cases :
    (∃ e, prepare o w = .error e ∧ run o w ctx = ⟨[], .error e, w⟩) ∨
    (o.dryRun = true ∧ ∃ s, prepare o w = .ok s ∧ run o w ctx = ⟨[], .ok s, w⟩) ∨
    ∃ s, prepare o w = .ok s ∧ o.dryRun = false ∧
      ((∃ e, textureDirReady o s.intervals w = .error e ∧
          run o w ctx = ⟨[], .error e, w⟩) ∨
       ∃ w₁ paths, textureDirReady o s.intervals w = .ok w₁ ∧
         ((∃ c, attemptsFrom o ctx s.format 0 s.intervals = (paths, some c) ∧
             run o w ctx = ⟨progressOf s.intervals paths, .error (.cancelled c), w₁⟩) ∨
          (attemptsFrom o ctx s.format 0 s.intervals = (paths, none) ∧
            ((∃ e, (o.builder s).build s.intervals paths = .error e ∧
                run o w ctx = ⟨progressOf s.intervals paths, .error (.build e), w₁⟩) ∨
             ∃ doc, (o.builder s).build s.intervals paths = .ok doc ∧
               let written := writeAndRender o doc
                 { s with texturePaths := some paths,
                          fallbacks := (paths.filter (· = "")).length, document := some doc } w₁
               run o w ctx = ⟨progressOf s.intervals paths, written.2, written.1⟩)))) := by
  cases hprep : prepare o w with
  | error e => exact .inl ⟨e, rfl, run_of_prepare_error ctx hprep⟩
  | ok s =>
    cases hdry : o.dryRun with
    | true => exact .inr (.inl ⟨rfl, s, rfl, run_of_dryRun ctx hprep hdry⟩)
    | false =>
      refine .inr (.inr ⟨s, rfl, rfl, ?_⟩)
      cases hdir : textureDirReady o s.intervals w with
      | error e => exact .inl ⟨e, rfl, run_of_textureDir_error ctx hprep hdry hdir⟩
      | ok w₁ =>
        rcases hatt : attemptsFrom o ctx s.format 0 s.intervals with ⟨paths, _ | c⟩
        case some =>
          exact .inr ⟨w₁, paths, rfl,
            .inl ⟨c, rfl, run_of_cancelled ctx hprep hdry hdir hatt⟩⟩
        case none =>
          refine .inr ⟨w₁, paths, rfl, .inr ⟨rfl, ?_⟩⟩
          cases hbuild : (o.builder s).build s.intervals paths with
          | error e => exact .inl ⟨e, rfl, run_of_build_error ctx hprep hdry hdir hatt hbuild⟩
          | ok doc => exact .inr ⟨doc, rfl, run_of_built ctx hprep hdry hdir hatt hbuild⟩

variable {o w ctx}

theorem run_keeps_of_error {e : RunError} (h : (run o w ctx).result = .error e) :
    Keeps w (run o w ctx).workspace := by
  rcases run_cases o w ctx with ⟨_, -, heq⟩ | ⟨-, _, -, heq⟩ | ⟨s, -, -, ⟨_, -, heq⟩ |
      ⟨w₁, paths, hdir, ⟨_, -, heq⟩ | ⟨-, ⟨_, -, heq⟩ | ⟨doc, -, heq⟩⟩⟩⟩ <;>
    rewrite [heq] at h ⊢
  · exact Keeps.refl w
  · cases h
  · exact Keeps.refl w
  · exact textureDirReady_keeps hdir
  · exact textureDirReady_keeps hdir
  · dsimp only at h ⊢
    exact (textureDirReady_keeps hdir).trans (writeAndRender_keeps_of_error h)

theorem run_held : (run o w ctx).workspace.held = w.held := by
  rcases run_cases o w ctx with ⟨_, -, heq⟩ | ⟨-, _, -, heq⟩ | ⟨s, -, -, ⟨_, -, heq⟩ |
      ⟨w₁, paths, hdir, ⟨_, -, heq⟩ | ⟨-, ⟨_, -, heq⟩ | ⟨doc, -, heq⟩⟩⟩⟩ <;>
    rewrite [heq]
  · rfl
  · rfl
  · rfl
  · exact (textureDirReady_keeps hdir).held
  · exact (textureDirReady_keeps hdir).held
  · dsimp only
    exact writeAndRender_held.trans (textureDirReady_keeps hdir).held

theorem run_of_dryRun_eq_true (hdry : o.dryRun = true) :
    run o w ctx = ⟨[], prepare o w, w⟩ := by
  cases hprep : prepare o w with
  | error e => exact run_of_prepare_error ctx hprep
  | ok s => exact run_of_dryRun ctx hprep hdry

/-- A composite that cannot be written still gives the lock file back: only the write fails
with a write error. -/
theorem run_releases_lock_of_create {p : String} {e : PathError}
    (h : (run o w ctx).result = .error (.create p e)) :
    (run o w ctx).workspace.fileText? (o.output ++ ".lock") = none := by
  rcases run_cases o w ctx with ⟨_, hprep, heq⟩ | ⟨-, _, -, heq⟩ |
      ⟨s, -, -, ⟨_, hdir, heq⟩ |
      ⟨w₁, paths, -, ⟨_, -, heq⟩ | ⟨-, ⟨_, -, heq⟩ | ⟨doc, -, heq⟩⟩⟩⟩ <;>
    rw [heq] at h ⊢
  · cases h
    exact absurd hprep (prepare_ne_create p e)
  · cases h
  · cases h
    obtain ⟨_, hpe⟩ := textureDirReady_eq_error hdir
    cases hpe
  · cases h
  · cases h
  · dsimp only at h ⊢
    exact writeAndRender_releases_of_create h

/-- A wet run that succeeds got through every stage: the project was prepared, the texture
directory made, the context live before every attempt, the composite built over the paths
made, and the output's lock free. The composite is then at the output, the lock file is
gone, and the render, when one is asked for, is recorded as done or failed. -/
theorem run_eq_ok_of_wet {r : Summary} (h : (run o w ctx).result = .ok r)
    (hwet : o.dryRun = false) :
    ∃ s w₁ paths doc, prepare o w = .ok s ∧ textureDirReady o s.intervals w = .ok w₁ ∧
      (∀ k < s.intervals.length, ctx.stopAt k = none) ∧ r.texturePaths = some paths ∧
      (o.builder s).build s.intervals paths = .ok doc ∧
      w.absolute (o.output ++ ".lock") ∉ w.held ∧ r.document = some doc ∧
      (run o w ctx).workspace.volume.get? (w.absolute o.output) = some (.file doc.encode) ∧
      (run o w ctx).workspace.fileText? (o.output ++ ".lock") = none ∧
      (r.rendered = true ↔ o.renderOutput ≠ "" ∧
        ∃ render, o.renderer = some render ∧ render o.output o.renderOutput = .ok ()) ∧
      ∀ why, r.renderError = some why ↔ o.renderOutput ≠ "" ∧
        ∃ render, o.renderer = some render ∧ render o.output o.renderOutput = .error why := by
  rcases run_cases o w ctx with ⟨_, -, heq⟩ | ⟨hdry, _, -, -⟩ |
      ⟨s, hprep, -, ⟨_, -, heq⟩ |
        ⟨w₁, paths, hdir, ⟨_, -, heq⟩ | ⟨hatt, ⟨_, -, heq⟩ | ⟨doc, hbuild, heq⟩⟩⟩⟩
  · rw [heq] at h
    cases h
  · rw [hwet] at hdry
    cases hdry
  all_goals rw [heq] at h ⊢
  · cases h
  · cases h
  · cases h
  dsimp only at h ⊢
  obtain ⟨hfree, hwritten, hreleased, hr⟩ := writeAndRender_written h
  obtain ⟨-, -, hout, herr⟩ := fields_of_prepare_eq_ok hprep
  have hkeep := textureDirReady_keeps hdir
  have habs : w₁.absolute = w.absolute := funext (Workspace.absolute_congr hkeep.cwd)
  have hr' := hr.trans (renderStep_eq_with o _)
  refine ⟨s, w₁, paths, doc, hprep, hdir, ?_, by rw [hr'], hbuild, ?_, by rw [hr'], ?_,
    hreleased, ?_, fun why => ?_⟩
  · simpa using live_of_attemptsFrom_eq hatt
  · rwa [habs, hkeep.held] at hfree
  · rwa [habs] at hwritten
  · rw [hr]
    refine rendered_renderStep o ?_ ?_
    · exact hout
    · exact herr
  · rw [hr]
    refine renderError_renderStep o ?_ why
    exact herr

end Run

/-- A run stops at the first stage that fails and then writes nothing: a failed run leaves
every file as it found it. Preparing fails first, and looks up the source before the clips;
a dry run stops after preparing. A wet run succeeds only once every stage has: the texture
directory made, the context live before each texture, the composite built and the output's
lock free; the composite is then at the output and the lock file gone, also when the
composite cannot be written. A render only records how it went: done exactly when an output
and a renderer are given and it succeeded. Other runs' locks are never touched. -/
theorem run_aborts_before_writing (o : Options) (w : Workspace) (ctx : Context) :
    (∀ e, (run o w ctx).result = .error e → Keeps w (run o w ctx).workspace) ∧
    (∀ e, prepare o w = .error e → run o w ctx = ⟨[], .error e, w⟩) ∧
    (∀ root, readProject w o.project = .ok root →
      (Project.formatOf root o.formatId).2 = none → o.sourceVideo = "" →
      Project.sourcePath root
        (if o.assetId = "" then Project.defaultAssetId else o.assetId) = "" →
      prepare o w = .error
        (.sourceUnresolved (if o.assetId = "" then Project.defaultAssetId else o.assetId))) ∧
    (o.dryRun = true → run o w ctx = ⟨[], prepare o w, w⟩ ∧
      ∀ s, prepare o w = .ok s → s.texturePaths = none ∧ s.document = none) ∧
    (∀ r, (run o w ctx).result = .ok r → o.dryRun = false →
      ∃ s w₁ paths doc, prepare o w = .ok s ∧ textureDirReady o s.intervals w = .ok w₁ ∧
        (∀ k < s.intervals.length, ctx.stopAt k = none) ∧ r.texturePaths = some paths ∧
        (o.builder s).build s.intervals paths = .ok doc ∧
        w.absolute (o.output ++ ".lock") ∉ w.held ∧ r.document = some doc ∧
        (run o w ctx).workspace.volume.get? (w.absolute o.output) = some (.file doc.encode) ∧
        (run o w ctx).workspace.fileText? (o.output ++ ".lock") = none ∧
        (r.rendered = true ↔ o.renderOutput ≠ "" ∧
          ∃ render, o.renderer = some render ∧ render o.output o.renderOutput = .ok ()) ∧
        ∀ why, r.renderError = some why ↔ o.renderOutput ≠ "" ∧
          ∃ render, o.renderer = some render ∧ render o.output o.renderOutput = .error why) ∧
    (∀ p e, (run o w ctx).result = .error (.create p e) →
      (run o w ctx).workspace.fileText? (o.output ++ ".lock") = none) ∧
    (run o w ctx).workspace.held = w.held := by
  refine ⟨fun _ h => run_keeps_of_error h, fun _ h => run_of_prepare_error ctx h,
    fun _ hread hformat hvideo hmedia => prepare_of_source_unresolved hread hformat hvideo hmedia,
    fun hdry => ⟨run_of_dryRun_eq_true hdry, fun s hs => ?_⟩,
    fun _ h hwet => run_eq_ok_of_wet h hwet, fun _ _ h => run_releases_lock_of_create h,
    run_held⟩
  obtain ⟨hpaths, hdoc, -, -⟩ := fields_of_prepare_eq_ok hs
  exact ⟨hpaths, hdoc⟩

end KeyedComposite.Conversion
