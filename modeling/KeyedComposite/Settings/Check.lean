import KeyedComposite.Settings.Basic
import KeyedComposite.Host.Volume
import KeyedComposite.Log.Level
import KeyedComposite.Numeric.Shortest

/-! # Normalizing and checking settings

Paths in settings are expanded: trimmed, a leading `~` replaced by the home directory
(`~` alone, or `~/` and `~\` before the rest; `~name` stays as it is but still needs a
home directory), then cleaned and made absolute against the working directory. The empty
path stays empty.

`finalize` first normalizes (identifiers trimmed, paths expanded, the generator name,
log level and format lowercased, a `#` put before a bare key colour) and then checks the
sections in order: input, output, textures, keying, render (only when enabled), logging.
The first failing check is the answer.
-/
namespace KeyedComposite.Settings

open Host

/-- Why settings are unusable. -/
inductive SettingsError where
  /-- A path starts with `~` and no home directory is known; `field` names the setting,
  empty for the settings file itself. -/
  | noHome (field : String)
  /-- A required setting is empty. -/
  | unset (field : String)
  /-- The texture directory is empty while placeholder textures are asked for. -/
  | noTextureDir
  | generator (e : Texture.UnknownGenerator)
  | negativeMinDuration (value : Float)
  | keyColor (e : Keying.ColorError)
  /-- Rendering is enabled without a renderer or an output. -/
  | renderUnset (field : String)
  | crfRange (value : Int)
  /-- A log setting with an unknown value. -/
  | unsupported (field : String) (value : String)

def noHomeText : String := "resolve home directory: $HOME is not defined"

def SettingsError.message : SettingsError → String
  | .noHome "" => noHomeText
  | .noHome field => field ++ ": " ++ noHomeText
  | .unset field => field ++ " must be set"
  | .noTextureDir => "output.texture_dir must be set for the placeholder generator"
  | .generator e => "textures.generator: " ++ e.message
  | .negativeMinDuration v => "textures.min_duration must be >= 0 (got " ++ FloatText.general v ++ ")"
  | .keyColor e => "keying: " ++ e.message
  | .renderUnset field => field ++ " must be set when rendering is enabled"
  | .crfRange v => "render.crf must be between 0 and 51 (got " ++ toString v ++ ")"
  | .unsupported field v => field ++ ": unsupported value " ++ Quoted.quote v

def SettingsError.isUnknownGenerator : SettingsError → Bool
  | .generator _ => true
  | _ => false

/-- A path with its home directory put in, cleaned and made absolute; `none` when it
needs a home directory and none is known. -/
def expandPath (w : Workspace) (path : String) : Option String :=
  let p := Blank.trim path
  if p = "" then some ""
  else if p.startsWith "~" then
    match w.homeDir with
    | .error _ => none
    | .ok home =>
      let cs := p.toList
      let p :=
        if p = "~" then home
        else match cs with
          | _ :: c :: rest =>
            if c = '/' ∨ c = '\\' then PathName.join [home, String.ofList rest] else p
          | _ => p
      some (PathName.abs w.cwd (PathName.clean p))
  else some (PathName.abs w.cwd (PathName.clean p))

def expandField (w : Workspace) (field path : String) : Except SettingsError String :=
  match expandPath w path with
  | some p => .ok p
  | none => .error (.noHome field)

/-- The settings in normal form. -/
def normalize (w : Workspace) (s : Settings) : Except SettingsError Settings := do
  let sourceVideo ← expandField w "input.source_video" s.input.sourceVideo
  let outPath ← expandField w "output.path" s.output.path
  let textureDir ← expandField w "output.texture_dir" s.output.textureDir
  let renderOut ← expandField w "render.output" s.render.output
  let logFile ← expandField w "logging.file" s.logging.file
  let color := Blank.trim s.keying.keyColor
  let color := if color ≠ "" ∧ !color.startsWith "#" then "#" ++ color else color
  return { s with
    input := { s.input with assetId := Blank.trim s.input.assetId,
                            formatId := Blank.trim s.input.formatId, sourceVideo },
    output := { s.output with path := outPath, textureDir },
    textures := { s.textures with generator := LowerCase.lower (Blank.trim s.textures.generator) },
    keying := { s.keying with keyColor := color },
    render := { s.render with output := renderOut },
    logging := { level := LowerCase.lower (Blank.trim s.logging.level),
                 format := LowerCase.lower (Blank.trim s.logging.format), file := logFile } }

def failIf (bad : Bool) (e : SettingsError) : Except SettingsError Unit :=
  if bad then .error e else .ok ()

/-- Checks normalized settings, section by section. -/
def validate (s : Settings) : Except SettingsError Unit := do
  failIf (s.input.assetId = "") (.unset "input.asset_id")
  failIf (Blank.trim s.input.clipName = "") (.unset "input.clip_name")
  failIf (s.output.path = "") (.unset "output.path")
  failIf (s.output.textureDir = "" ∧ s.textures.generator = "placeholder") .noTextureDir
  match Texture.Generator.named s.textures.generator s.textureOptions with
  | .error e => throw (.generator e)
  | .ok _ => pure ()
  failIf (s.textures.minDuration < 0) (.negativeMinDuration s.textures.minDuration)
  match s.keying.validate with
  | .error e => throw (.keyColor e)
  | .ok _ => pure ()
  if s.render.enabled then
    failIf (Blank.trim s.render.melt = "") (.renderUnset "render.melt")
    failIf (s.render.output = "") (.renderUnset "render.output")
    failIf (s.render.crf < 0 ∨ s.render.crf > 51) (.crfRange s.render.crf)
  failIf (!Log.Level.isSetting s.logging.level) (.unsupported "logging.level" s.logging.level)
  failIf (!(["", "console", "json"].contains s.logging.format))
    (.unsupported "logging.format" s.logging.format)

def finalize (w : Workspace) (s : Settings) : Except SettingsError Settings := do
  let s ← normalize w s
  validate s
  return s

end KeyedComposite.Settings
