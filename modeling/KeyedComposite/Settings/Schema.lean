import KeyedComposite.Settings.Basic
import KeyedComposite.Keying.Modes
import KeyedComposite.Text.LowerCase

/-! # The layout of a settings file

A settings file has one table per section and one key per setting. The schema lists them
with the kind of each setting's value and the names that messages give the section's
record and the setting's field. Keys are matched as written or, failing that, in lower
case.
-/
namespace KeyedComposite.Settings

/-- The kind of a setting's value; a mode is a number of its family, written as a name
or a number. -/
inductive FieldKind where
  | text
  | flag
  | real
  | whole
  | mode (k : Keying.ModeKind)

def FieldKind.typeName : FieldKind → String
  | .text => "string"
  | .flag => "bool"
  | .real => "float64"
  | .whole => "int"
  | .mode .colorspace => "keying.Colorspace"
  | .mode .shape => "keying.Shape"
  | .mode .edge => "keying.Edge"
  | .mode .operation => "keying.Operation"

def FieldKind.storage : FieldKind → String
  | .mode _ => "float64"
  | k => k.typeName

/-- A value ready to be stored in a setting. -/
inductive Stored where
  | text (s : String)
  | flag (b : Bool)
  | real (f : Float)
  | whole (i : Int)

/-- A setting: its key, the name messages give it, its kind and how it is stored. -/
structure Field where
  key : String
  name : String
  kind : FieldKind
  store : Settings → Stored → Settings

/-- A section: its key, the name messages give it and its record, and its settings. -/
structure Section where
  key : String
  name : String
  typeName : String
  fields : List Field

def textField (key name : String) (set : Settings → String → Settings) : Field :=
  ⟨key, name, .text, fun s v => match v with | .text t => set s t | _ => s⟩

def flagField (key name : String) (set : Settings → Bool → Settings) : Field :=
  ⟨key, name, .flag, fun s v => match v with | .flag b => set s b | _ => s⟩

def realField (key name : String) (kind : FieldKind) (set : Settings → Float → Settings) :
    Field :=
  ⟨key, name, kind, fun s v => match v with | .real f => set s f | _ => s⟩

def wholeField (key name : String) (set : Settings → Int → Settings) : Field :=
  ⟨key, name, .whole, fun s v => match v with | .whole i => set s i | _ => s⟩

def inputSection : Section :=
  { key := "input", name := "Input", typeName := "config.Input",
    fields := [
      textField "asset_id" "AssetID" fun s v => { s with input.assetId := v },
      textField "clip_name" "ClipName" fun s v => { s with input.clipName := v },
      textField "format_id" "FormatID" fun s v => { s with input.formatId := v },
      textField "source_video" "SourceVideo" fun s v => { s with input.sourceVideo := v }] }

def outputSection : Section :=
  { key := "output", name := "Output", typeName := "config.Output",
    fields := [
      textField "path" "Path" fun s v => { s with output.path := v },
      textField "texture_dir" "TextureDir" fun s v => { s with output.textureDir := v },
      textField "title" "Title" fun s v => { s with output.title := v },
      textField "mlt_version" "MLTVersion" fun s v => { s with output.version := v }] }

def texturesSection : Section :=
  { key := "textures", name := "Textures", typeName := "config.Textures",
    fields := [
      textField "generator" "Generator" fun s v => { s with textures.generator := v },
      textField "ffmpeg" "FFmpeg" fun s v => { s with textures.ffmpeg := v },
      textField "codec" "Codec" fun s v => { s with textures.codec := v },
      textField "preset" "Preset" fun s v => { s with textures.preset := v },
      textField "pixel_format" "PixelFormat" fun s v => { s with textures.pixelFormat := v },
      realField "min_duration" "MinDuration" .real fun s v => { s with textures.minDuration := v }] }

def keyingSection : Section :=
  { key := "keying", name := "Keying", typeName := "keying.Params",
    fields := [
      textField "key_color" "KeyColor" fun s v => { s with keying.keyColor := v },
      flagField "invert" "Invert" fun s v => { s with keying.invert := v },
      realField "delta_h" "DeltaH" .real fun s v => { s with keying.deltaH := v },
      realField "delta_c" "DeltaC" .real fun s v => { s with keying.deltaC := v },
      realField "delta_i" "DeltaI" .real fun s v => { s with keying.deltaI := v },
      realField "slope" "Slope" .real fun s v => { s with keying.slope := v },
      realField "colorspace" "Colorspace" (.mode .colorspace) fun s v => { s with keying.colorspace := v },
      realField "shape" "Shape" (.mode .shape) fun s v => { s with keying.shape := v },
      realField "edge" "Edge" (.mode .edge) fun s v => { s with keying.edge := v },
      realField "operation" "Operation" (.mode .operation) fun s v => { s with keying.operation := v },
      realField "alpha_mode" "AlphaMode" .real fun s v => { s with keying.alphaMode := v },
      realField "alpha_amount" "AlphaAmount" .real fun s v => { s with keying.alphaAmount := v }] }

def renderSection : Section :=
  { key := "render", name := "Render", typeName := "config.Render",
    fields := [
      flagField "enabled" "Enabled" fun s v => { s with render.enabled := v },
      textField "melt" "Melt" fun s v => { s with render.melt := v },
      textField "output" "Output" fun s v => { s with render.output := v },
      textField "vcodec" "VCodec" fun s v => { s with render.vcodec := v },
      textField "acodec" "ACodec" fun s v => { s with render.acodec := v },
      textField "preset" "Preset" fun s v => { s with render.preset := v },
      wholeField "crf" "CRF" fun s v => { s with render.crf := v }] }

def loggingSection : Section :=
  { key := "logging", name := "Logging", typeName := "config.Logging",
    fields := [
      textField "level" "Level" fun s v => { s with logging.level := v },
      textField "format" "Format" fun s v => { s with logging.format := v },
      textField "file" "File" fun s v => { s with logging.file := v }] }

def sections : List Section :=
  [inputSection, outputSection, texturesSection, keyingSection, renderSection, loggingSection]

def recordName : String := "config.Config"

def lookupKey {α : Type} (keyOf : α → String) (entries : List α) (k : String) : Option α :=
  match entries.find? (keyOf · == k) with
  | some e => some e
  | none => entries.find? (keyOf · == LowerCase.lower k)

def findSection (k : String) : Option Section := lookupKey Section.key sections k

def Section.findField (s : Section) (k : String) : Option Field := lookupKey Field.key s.fields k

end KeyedComposite.Settings
