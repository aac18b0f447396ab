import KeyedComposite.Settings.Basic
import KeyedComposite.Toml.Write

/-! # Settings as a TOML document

`Settings.toToml` writes the settings as the file that would produce them: one table per
section, the keys in the order of the file layout, modes by their names (or numbers when
they have none).
-/
namespace KeyedComposite.Settings

open Toml

/-- The tables of the settings. -/
def tables (s : Settings) : List Table :=
  [{ name := "input",
     pairs := [("asset_id", .text s.input.assetId), ("clip_name", .text s.input.clipName),
               ("format_id", .text s.input.formatId), ("source_video", .text s.input.sourceVideo)] },
   { name := "output",
     pairs := [("path", .text s.output.path), ("texture_dir", .text s.output.textureDir),
               ("title", .text s.output.title), ("mlt_version", .text s.output.version)] },
   { name := "textures",
     pairs := [("generator", .text s.textures.generator), ("ffmpeg", .text s.textures.ffmpeg),
               ("codec", .text s.textures.codec), ("preset", .text s.textures.preset),
               ("pixel_format", .text s.textures.pixelFormat),
               ("min_duration", .float s.textures.minDuration)] },
   { name := "keying",
     pairs := [("key_color", .text s.keying.keyColor), ("invert", .bool s.keying.invert),
               ("delta_h", .float s.keying.deltaH), ("delta_c", .float s.keying.deltaC),
               ("delta_i", .float s.keying.deltaI), ("slope", .float s.keying.slope),
               ("colorspace", .text (Keying.ModeKind.colorspace.nameOf s.keying.colorspace)),
               ("shape", .text (Keying.ModeKind.shape.nameOf s.keying.shape)),
               ("edge", .text (Keying.ModeKind.edge.nameOf s.keying.edge)),
               ("operation", .text (Keying.ModeKind.operation.nameOf s.keying.operation)),
               ("alpha_mode", .float s.keying.alphaMode),
               ("alpha_amount", .float s.keying.alphaAmount)] },
   { name := "render",
     pairs := [("enabled", .bool s.render.enabled), ("melt", .text s.render.melt),
               ("output", .text s.render.output), ("vcodec", .text s.render.vcodec),
               ("acodec", .text s.render.acodec), ("preset", .text s.render.preset),
               ("crf", .integer s.render.crf)] },
   { name := "logging",
     pairs := [("level", .text s.logging.level), ("format", .text s.logging.format),
               ("file", .text s.logging.file)] }]

def toToml (s : Settings) : String := writeTables s.tables

end KeyedComposite.Settings
