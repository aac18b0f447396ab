import KeyedComposite.Markup.Parse
import KeyedComposite.Project.Format
import KeyedComposite.Project.Source
import KeyedComposite.Project.Extract
import KeyedComposite.Composite.Build
import KeyedComposite.Composite.Encode
import KeyedComposite.Texture.Generator
import KeyedComposite.Render.Melt
import KeyedComposite.Host.Volume
import KeyedComposite.Text.Uuid

/-! # A conversion run

A run is named by a random UUID drawn from the host. It reads a project file, takes its frame
format, finds the source video (the one given, else the keyed asset's own file), and
extracts the keyed intervals. A dry run stops
there. Otherwise each interval gets a texture, in order: a texture that fails or yields no
file leaves the interval on its palette colour and counts as a fallback, and every attempt
is reported as progress. Before each attempt the run looks at its context and stops with
the context's error once it is cancelled. The composite is then built, its directory made,
its lock file taken, the file written and, when asked, rendered; the lock file is removed at
the end. A render failure is kept in the summary and does not fail the run.

The texture directory is made only when there is a texture maker and at least one
interval.
-/
namespace KeyedComposite.Conversion

open Host

/-- What a texture maker answers for one interval: the path it wrote, empty when it wrote
nothing, and why it failed, if it did. -/
structure TextureAnswer where
  path : String
  failure : Option String := none

def TextureAnswer.ok (path : String) : TextureAnswer := ⟨path, none⟩

def TextureAnswer.error (why : String) : TextureAnswer := ⟨"", some why⟩

/-- The path an answer leaves its interval: none after a failure, whatever path came with it. -/
def TextureAnswer.kept (a : TextureAnswer) : String :=
  match a.failure with
  | some _ => ""
  | none => a.path

/-- What makes the texture of an interval: nothing (palette colours), or a maker that
is given the interval, the path to write and the frame format. -/
inductive TextureMaker where
  | solid
  | maker (make : Interval → String → FrameFormat → TextureAnswer)

def TextureMaker.ofGenerator : Texture.Generator → TextureMaker
  | .none => .solid
  | .placeholder p => .maker fun iv out f =>
    match p.generate iv out f with
    | .ok path => .ok path
    | .error e => .error e.message

/-- Why a run's context ended. -/
inductive Stop where
  | canceled
  | deadlineExceeded
  deriving DecidableEq, Repr

def Stop.message : Stop → String
  | .canceled => "context canceled"
  | .deadlineExceeded => "context deadline exceeded"

/-- A run's context as the run sees it: `stopAt i` is what the run finds when it looks just
before texture attempt `i` (counted from zero), `none` while the context is live. -/
structure Context where
  stopAt : Nat → Option Stop

def Context.background : Context := ⟨fun _ => none⟩

abbrev Renderer := String → String → Except String Unit

def meltRenderer (m : Render.Melt) : Renderer :=
  fun doc out => (m.render doc out).mapError (·.message)

/-- What a run is asked to do. Empty identifiers take the project defaults. -/
structure Options where
  project : String
  assetId : String := ""
  clipName : String := ""
  formatId : String := ""
  /-- The source video to use instead of the asset's file. -/
  sourceVideo : String := ""
  output : String
  textureDir : String
  title : String := ""
  version : String := ""
  dryRun : Bool := false
  keying : Keying.Params
  textures : TextureMaker := .solid
  /-- Rendering happens when there is a renderer and a render output. -/
  renderer : Option Renderer := none
  renderOutput : String := ""

/-- Why a run failed. -/
inductive RunError where
  /-- The project file cannot be opened. -/
  | unopenable (e : PathError)
  /-- The project file cannot be read through. -/
  | unreadable (path : String) (e : PathError)
  | malformed (path : String) (e : Markup.ReadError)
  | format (e : Project.FormatError)
  | sourceUnresolved (assetId : String)
  | extract (e : Project.ExtractError)
  | textureDir (e : PathError)
  /-- The context was found cancelled before a texture attempt. -/
  | cancelled (stop : Stop)
  | build (e : Composite.BuildError)
  | outputDir (e : PathError)
  | lock (path : String) (e : PathError)
  /-- Another run holds the output's lock. -/
  | locked (output : String)
  | create (path : String) (e : PathError)

def RunError.message : RunError → String
  | .unopenable e => "failed to read file: " ++ e.message
  | .unreadable p e => p ++ ": failed to parse XML: " ++ e.message
  | .malformed p e => p ++ ": failed to parse XML: " ++ e.message
  | .format e => e.message
  | .sourceUnresolved a =>
    "could not determine source video path for asset " ++ a ++ "; set a source video override"
  | .extract e => e.message
  | .textureDir e => "create texture directory: " ++ e.message
  | .cancelled s => s.message
  | .build e => e.message
  | .outputDir e => "create output directory: " ++ e.message
  | .lock p e => "lock " ++ p ++ ": " ++ e.message
  | .locked o => "output is locked by another run: " ++ o
  | .create p e => "failed to create " ++ p ++ ": " ++ e.message

def RunError.failureClass : RunError → FailureClass
  | .sourceUnresolved _ => .sourceUnresolved
  | .locked _ => .outputLocked
  | .build e => e.failureClass
  | _ => .other

/-- One texture attempt: how many are done of how many, the interval and the path made. -/
structure Progress where
  done : Nat
  total : Nat
  index : Int
  path : String
  deriving DecidableEq

/-- What a run produced. -/
structure Summary where
  /-- The run's random identifier. -/
  runId : String := ""
  format : FrameFormat
  source : String
  intervals : List Interval
  totalFrames : Int
  /-- The texture of each interval, empty for a fallback; `none` on a dry run. -/
  texturePaths : Option (List String) := none
  fallbacks : Nat := 0
  /-- The composite built; `none` on a dry run. -/
  document : Option Composite.Document := none
  outputPath : String := ""
  renderOutput : String := ""
  renderError : Option String := none

def Summary.rendered (s : Summary) : Bool := s.renderOutput ≠ "" && s.renderError.isNone

/-- The end of a run: the progress reported, the summary or the error, and the
workspace afterwards. -/
structure Outcome where
  progress : List Progress
  result : Except RunError Summary
  workspace : Workspace

def readProject (w : Workspace) (path : String) : Except RunError Markup.Node :=
  match w.readFile path with
  | .error e => .error (if e.errno = .isDirectory then .unreadable path e else .unopenable e)
  | .ok text => (Markup.Node.parse text).mapError (.malformed path)

def resolveSource (o : Options) (root : Markup.Node) : Except RunError String :=
  if o.sourceVideo ≠ "" then .ok o.sourceVideo
  else
    let assetId := if o.assetId = "" then Project.defaultAssetId else o.assetId
    let path := Project.sourcePath root assetId
    if path ≠ "" then .ok path else .error (.sourceUnresolved assetId)

def prepare (o : Options) (w : Workspace) : Except RunError Summary := do
  let root ← readProject w o.project
  let (format, err) := Project.formatOf root o.formatId
  if let some e := err then throw (.format e)
  let source ← resolveSource o root
  let intervals ← (Project.extract root { assetId := o.assetId, clipName := o.clipName }).mapError
    .extract
  return { runId := Uuid.ofRandom w.random, format, source, intervals,
            totalFrames := totalFrames format intervals }

def textureDirReady (o : Options) (ivs : List Interval) (w : Workspace) :
    Except RunError Workspace :=
  match o.textures with
  | .solid => .ok w
  | .maker _ => if ivs.isEmpty then .ok w else (w.mkdirAll o.textureDir).mapError .textureDir

def textureOf (o : Options) (f : FrameFormat) (iv : Interval) : String :=
  match o.textures with
  | .solid => ""
  | .maker make =>
    (make iv (Texture.outputPath o.textureDir iv.index) f).kept

/-- The texture attempts from attempt `i` on, one per interval in order, each after a look
at the context: the paths made, and the stop that cut the attempts short, if any. -/
def attemptsFrom (o : Options) (ctx : Context) (f : FrameFormat) :
    Nat → List Interval → List String × Option Stop
  | _, [] => ([], none)
  | i, iv :: ivs =>
    match ctx.stopAt i with
    | some stop => ([], some stop)
    | none =>
      let (paths, stop) := attemptsFrom o ctx f (i + 1) ivs
      (textureOf o f iv :: paths, stop)

def Options.builder (o : Options) (s : Summary) : Composite.Builder :=
  { format := s.format, source := s.source, keying := o.keying,
    title := if o.title = "" then Composite.defaultTitle else o.title,
    version := if o.version = "" then Composite.defaultVersion else o.version }

def progressOf (ivs : List Interval) (paths : List String) : List Progress :=
  (ivs.zip paths).zipIdx.map fun ((iv, p), i) =>
    { done := i + 1, total := ivs.length, index := iv.index, path := p }

def renderStep (o : Options) (s : Summary) : Summary :=
  match o.renderer with
  | some r =>
    if o.renderOutput = "" then s
    else
      let s := { s with renderOutput := o.renderOutput }
      match r o.output o.renderOutput with
      | .ok () => s
      | .error e => { s with renderError := some e }
  | none => s

/-- Writes the composite under its lock, then renders it when asked; the lock file is
removed once the lock was taken. -/
def writeAndRender (o : Options) (doc : Composite.Document) (s : Summary) (w : Workspace) :
    Workspace × Except RunError Summary :=
  match w.mkdirAll (PathName.dir o.output) with
  | .error e => (w, .error (.outputDir e))
  | .ok w =>
    let lockPath := o.output ++ ".lock"
    match w.tryLock lockPath with
    | .error e => (w, .error (.lock lockPath e))
    | .ok none => (w, .error (.locked o.output))
    | .ok (some w) =>
      match w.writeFile o.output doc.encode with
      | .error e => (w.remove lockPath, .error (.create o.output e))
      | .ok w => (w.remove lockPath, .ok (renderStep o { s with outputPath := o.output }))

/-- Runs a conversion in a workspace, under a context that is never cancelled unless one
is given. -/
def run (o : Options) (w : Workspace) (ctx : Context := .background) : Outcome :=
  match prepare o w with
  | .error e => ⟨[], .error e, w⟩
  | .ok s =>
    if o.dryRun then ⟨[], .ok s, w⟩
    else
      match textureDirReady o s.intervals w with
      | .error e => ⟨[], .error e, w⟩
      | .ok w =>
        let (paths, stop) := attemptsFrom o ctx s.format 0 s.intervals
        let progress := progressOf s.intervals paths
        match stop with
        | some stop => ⟨progress, .error (.cancelled stop), w⟩
        | none =>
          let s := { s with texturePaths := some paths,
                            fallbacks := (paths.filter (· = "")).length }
          match (o.builder s).build s.intervals paths with
          | .error e => ⟨progress, .error (.build e), w⟩
          | .ok doc =>
            let (w, result) := writeAndRender o doc { s with document := some doc } w
            ⟨progress, result, w⟩

end KeyedComposite.Conversion
