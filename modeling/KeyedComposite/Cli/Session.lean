import KeyedComposite.Cli.Completion
import KeyedComposite.Cli.ShellScript
import KeyedComposite.Settings.Load
import KeyedComposite.Settings.Show
import KeyedComposite.Settings.Sample
import KeyedComposite.Settings.Override
import KeyedComposite.Conversion.Run
import KeyedComposite.Host.Tools
import KeyedComposite.Log.File
import KeyedComposite.Text.BoxTable
import KeyedComposite.Numeric.Grouped
import KeyedComposite.Numeric.Fixed

/-! # Running the tool

`run` carries out a command line in a workspace and returns what it printed on its
standard output and standard error, the error it ended with, if any, and the workspace
afterwards.

Before a command runs (any but `config init`), the settings are loaded from the file
`--config` names (or the default search), `--log-level` replaces the log level and the
settings are finalized again, and the log file, if one is set, is opened. Flags a command
was given explicitly override the settings: `inspect` takes them as they are, `convert`
finalizes the settings again. `completion SHELL` prints that shell's completion script,
and the request command those scripts call prints the candidates for a partial command
line; a command line that does not call it never sees it.

Clip tables list, per interval, its number, its first source frame and that frame's
clock time, its length in frames and seconds and its parent; the footer has the count,
the total frames, the summed seconds and the clock time of the total.
-/
namespace KeyedComposite.Cli

open Host

/-- Why a command failed. -/
inductive ToolError where
  | command (e : CommandError)
  | load (e : Settings.LoadError)
  | settings (e : Settings.SettingsError)
  | logFile (e : Log.FileError)
  | run (e : Conversion.RunError)
  | generator (e : Texture.UnknownGenerator)
  | sample (e : Settings.SampleError)
  | noHome
  | missingTools (count : Nat)
  | fault (f : Fault)

def ToolError.message : ToolError → String
  | .command e => e.message
  | .load e => e.message
  | .settings e => e.message
  | .logFile e => e.message
  | .run e => e.message
  | .generator e => e.message
  | .sample e => e.message
  | .noHome => Settings.noHomeText
  | .missingTools n => toString n ++ " required tool(s) missing"
  | .fault f => f.message

def ToolError.failureClass : ToolError → FailureClass
  | .settings e => if e.isUnknownGenerator then .unknownGenerator else .other
  | .load (.invalid e) => if e.isUnknownGenerator then .unknownGenerator else .other
  | .run e => e.failureClass
  | .generator _ => .unknownGenerator
  | _ => .other

def ToolError.isCrash : ToolError → Bool
  | .load e => e.isCrash
  | .fault _ => true
  | _ => false

/-- What a command line did. -/
structure Outcome where
  stdout : String := ""
  stderr : String := ""
  error : Option ToolError := none
  workspace : Workspace

/-- The state of a command once its settings are loaded. -/
structure Session where
  workspace : Workspace
  settings : Settings
  settingsPath : String
  settingsFound : Bool

def textOf (r : Reading) (name default : String) : String :=
  match r.value? name with
  | some (.text s) => s
  | _ => default

def switchOf (r : Reading) (name : String) : Bool :=
  match r.value? name with
  | some (.switch b) => b
  | _ => false

def realOf (r : Reading) (name : String) (default : Float) : Float :=
  match r.value? name with
  | some (.real f) => f
  | _ => default

def prepare (w : Workspace) (r : Reading) : Except ToolError Session := do
  let loaded ← (Settings.load w (textOf r "config" "")).mapError ToolError.load
  let level := textOf r "log-level" ""
  let relevelled := { loaded.settings with logging.level := level }
  let settings ← if level = "" then pure loaded.settings
    else (Settings.finalize w relevelled).mapError ToolError.settings
  let w ← (Log.openFile w settings.logging.file).mapError ToolError.logFile
  return { workspace := w, settings, settingsPath := loaded.path, settingsFound := loaded.found }

def clipTable (ivs : List Interval) (f : FrameFormat) : Except Fault String := do
  if ivs.isEmpty then return "No matching clips found.\n"
  let rows ← ivs.mapM fun iv => do
    let start := iv.mediaStartFrames f
    return [padded 2 iv.index, grouped start, ← f.clock start, grouped (iv.durationFrames f),
      fixed 3 iv.durationSeconds ++ "s", iv.parent]
  let total := totalFrames f ivs
  let seconds := ivs.foldl (fun acc iv => acc + iv.durationSeconds) 0
  let footer := [toString ivs.length, "", "", grouped total, fixed 3 seconds ++ "s", ← f.clock total]
  let table : BoxTable.Table :=
    { headers := ["#", "Start", "Timecode", "Frames", "Duration", "Parent"],
      aligns := [.right, .right, .left, .right, .right, .left], rows, footer }
  return table.render ++ "\n"

/-- Lists the keyed clips of a project. -/
def inspect (s : Session) (r : Reading) (project : String) : Outcome :=
  let input := s.settings.input
  let assetId := if r.changed "asset-id" then textOf r "asset-id" "" else input.assetId
  let clipName := if r.changed "clip-name" then textOf r "clip-name" "" else input.clipName
  let formatId := if r.changed "format-id" then textOf r "format-id" "" else input.formatId
  let result : Except ToolError String := do
    let root ← (Conversion.readProject s.workspace project).mapError ToolError.run
    let (f, err) := Project.formatOf root formatId
    if let some e := err then throw (.run (.format e))
    let ivs ← (Project.extract root { assetId, clipName }).mapError (ToolError.run ∘ .extract)
    let source := Project.sourcePath root assetId
    let table ← (clipTable ivs f).mapError ToolError.fault
    return "Format: " ++ f.describe ++ "\n" ++
      (if source ≠ "" then "Source: " ++ source ++ "\n"
       else "Source: asset " ++ assetId ++ " has no media path\n") ++ table
  match result with
  | .ok out => { stdout := out, workspace := s.workspace }
  | .error e => { error := some e, workspace := s.workspace }

def givenText (r : Reading) (name : String) : Option String :=
  if r.changed name then some (textOf r name "") else none

def givenReal (r : Reading) (name : String) : Option Float :=
  if r.changed name then some (realOf r name 0) else none

def convertOverrides (r : Reading) : Settings.Overrides :=
  { output := givenText r "output", textureDir := givenText r "output-dir",
    generator := givenText r "generator", sourceVideo := givenText r "source-video",
    assetId := givenText r "asset-id", clipName := givenText r "clip-name",
    formatId := givenText r "format-id", keyColor := givenText r "key-color",
    deltaH := givenReal r "delta-h", deltaC := givenReal r "delta-c",
    deltaI := givenReal r "delta-i", slope := givenReal r "slope", edge := givenReal r "edge",
    render := if r.changed "render" then some (switchOf r "render") else none,
    renderOutput := givenText r "render-output" }

/-- Builds a composite from a project. -/
def convert (s : Session) (r : Reading) (project : String) : Outcome :=
  let w := s.workspace
  match Settings.finalize w (s.settings.override (convertOverrides r)) with
  | .error e => { error := some (.settings e), workspace := w }
  | .ok cfg =>
    match Texture.Generator.named cfg.textures.generator cfg.textureOptions with
    | .error e => { error := some (.generator e), workspace := w }
    | .ok gen =>
      let dryRun := switchOf r "dry-run"
      let o : Conversion.Options :=
        { project, assetId := cfg.input.assetId, clipName := cfg.input.clipName,
          formatId := cfg.input.formatId, sourceVideo := cfg.input.sourceVideo,
          output := cfg.output.path, textureDir := cfg.output.textureDir,
          title := cfg.output.title, version := cfg.output.version, dryRun,
          keying := cfg.keying, textures := Conversion.TextureMaker.ofGenerator gen,
          renderer := if cfg.render.enabled then some (Conversion.meltRenderer cfg.melt) else none,
          renderOutput := if cfg.render.enabled then cfg.render.output else "" }
      let out := Conversion.run o w
      match out.result with
      | .error e => { error := some (.run e), workspace := out.workspace }
      | .ok res =>
        match clipTable res.intervals res.format with
        | .error f => { error := some (.fault f), workspace := out.workspace }
        | .ok table =>
          let head := "Format: " ++ res.format.describe ++ "\n" ++ "Source: " ++ res.source ++ "\n" ++
            table
          if dryRun then { stdout := head ++ "Dry run complete.\n", workspace := out.workspace }
          else
            let fallbacks := if res.fallbacks > 0 then
                "Color fallbacks: " ++ toString res.fallbacks ++ " of " ++
                  toString res.intervals.length ++ "\n"
              else ""
            let written := "Written: " ++ res.outputPath ++ "\n"
            let (rendered, warning) :=
              if res.renderOutput = "" then ("", "")
              else match res.renderError with
                | some e => ("", "Warning: render failed: " ++ e ++ "\n" ++ "  Command: " ++
                    cfg.melt.command res.outputPath res.renderOutput ++ "\n")
                | none => ("Rendered: " ++ res.renderOutput ++ "\n", "")
            { stdout := head ++ fallbacks ++ written ++ rendered, stderr := warning,
              workspace := out.workspace }

/-- Checks the external programs. -/
def doctor (s : Session) : Outcome :=
  let statuses := (defaultRequirements s.settings.textures.ffmpeg s.settings.render.melt).map
    Requirement.check
  let rows := statuses.map fun st =>
    let (state, detail) :=
      if st.available then ("ok", st.path)
      else (if st.optional then "optional" else "missing", st.detail)
    [st.name, state, detail, st.description]
  let table : BoxTable.Table :=
    { headers := ["Tool", "Status", "Detail", "Used for"], aligns := [], rows }
  let config := if s.settingsFound then "Config: " ++ s.settingsPath ++ "\n"
    else "Config: defaults (no config file found)\n"
  let missingCount := (missing statuses).length
  { stdout := table.render ++ "\n" ++ config,
    error := if missingCount > 0 then some (.missingTools missingCount) else none,
    workspace := s.workspace }

def showSettings (s : Session) : Outcome :=
  let head := if s.settingsFound then "# loaded from " ++ s.settingsPath ++ "\n"
    else "# built-in defaults\n"
  { stdout := head ++ s.settings.toToml, workspace := s.workspace }

def initSample (w : Workspace) (r : Reading) : Outcome :=
  let path := textOf r "path" ""
  let target := Settings.expandPath w (if path = "" then Settings.userFile else path)
  match target with
  | none => { error := some .noHome, workspace := w }
  | some target =>
    match Settings.writeSample w target (switchOf r "overwrite") with
    | .error e => { error := some (.sample e), workspace := w }
    | .ok w => { stdout := "Wrote sample config to " ++ target ++ "\n", workspace := w }

/-- A text between back quotes when it can stand there (no back quote, no control character
other than the tab, no byte order mark), else double-quoted. -/
def backQuoted (s : String) : String :=
  if s.toList.any (fun c => c = '`' ∨ (c.toNat < 0x20 ∧ c ≠ '\t') ∨ c.toNat = 0x7F ∨ c = '\uFEFF')
  then Quoted.quote s else "`" ++ s ++ "`"

/-- The help command: the help of the command its words name. When they name none, the
usage of the root follows, whose help flag is not set up at that point and so not listed. -/
def helpTopic (t : Tree) (words : List String) : String :=
  match t.find words with
  | .ok (c, _) => t.helpText c
  | .error _ =>
    let root := (t.get? []).getD rootCommand
    "Unknown help topic [" ++ " ".intercalate (words.map backQuoted) ++ "]\n" ++
      t.usageWith root (root.flags ++ root.persistent)

def completionScript (shell : String) (descriptions : Bool) : String :=
  let request := if descriptions then "__complete" else "__completeNoDesc"
  match shell with
  | "bash" => ShellScript.bash rootCommand.name request
  | "zsh" => ShellScript.zsh rootCommand.name request
  | "fish" => ShellScript.fish rootCommand.name request
  | _ => ShellScript.powershell rootCommand.name request

def callsRequest (words : List String) : Bool :=
  match toolWithRequest.find words with
  | .ok (c, _) => c.path = requestCommand.path
  | .error _ => false

/-- Carries out a command line in a workspace. -/
def run (w : Workspace) (words : List String) : Outcome :=
  let t := if callsRequest words then toolWithRequest else tool
  match t.dispatch words with
  | .error e => { error := some (.command e), workspace := w }
  | .ok (.help c) => { stdout := t.helpText c, workspace := w }
  | .ok (.run c r) =>
    if c.path = ["config", "init"] then initSample w r
    else
      match prepare w r with
      | .error e => { error := some e, workspace := w }
      | .ok s =>
        match c.path, r.args with
        | ["inspect"], [project] => inspect s r project
        | ["convert"], [project] => convert s r project
        | ["doctor"], _ => doctor s
        | ["config", "show"], _ => showSettings s
        | ["help"], topic => { stdout := helpTopic tool topic, workspace := s.workspace }
        | ["completion", shell], _ =>
          { stdout := completionScript shell (!switchOf r "no-descriptions"),
            workspace := s.workspace }
        | ["__complete"], line =>
          let descriptions :=
            (Tree.commandWords (t.walkFlags rootCommand) (words.length + 1) words).head?
            != some "__completeNoDesc"
          let cs := t.complete line
          { stdout := cs.text descriptions, stderr := cs.note, workspace := s.workspace }
        | [], _ => { stdout := tool.helpText c, workspace := s.workspace }
        | _, _ => { workspace := s.workspace }

end KeyedComposite.Cli
