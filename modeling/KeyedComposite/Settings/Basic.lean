import KeyedComposite.Keying.Params
import KeyedComposite.Project.Extract
import KeyedComposite.Project.Format
import KeyedComposite.Composite.Build
import KeyedComposite.Texture.Generator
import KeyedComposite.Render.Melt

/-! # Settings

The settings of a run come in six sections: what to read from the project, where the
composite and its textures go, how textures are made, the keying parameters, the optional
render pass and the log output. `Settings.standard` holds the built-in defaults; a
settings file overrides some of them.
-/
namespace KeyedComposite.Settings

/-- What to read from the project. -/
structure Input where
  assetId : String
  clipName : String
  formatId : String
  sourceVideo : String

/-- Where the composite and the generated textures are written. -/
structure Output where
  path : String
  textureDir : String
  title : String
  version : String

/-- How replacement textures are made. -/
structure Textures where
  generator : String
  ffmpeg : String
  codec : String
  preset : String
  pixelFormat : String
  minDuration : Float

/-- The optional render pass. -/
structure Render where
  enabled : Bool
  melt : String
  output : String
  vcodec : String
  acodec : String
  preset : String
  crf : Int

/-- The log output: its level, its line format and a file to write to. -/
structure Logging where
  level : String
  format : String
  file : String

end Settings

/-- The settings of a run. -/
structure Settings where
  input : Settings.Input
  output : Settings.Output
  textures : Settings.Textures
  keying : Keying.Params
  render : Settings.Render
  logging : Settings.Logging

namespace Settings

def standard : Settings :=
  { input := { assetId := Project.defaultAssetId, clipName := Project.defaultClipName,
               formatId := Project.defaultFormatId, sourceVideo := "" },
    output := { path := "hoodie.mlt", textureDir := "./textures",
                title := Composite.defaultTitle, version := Composite.defaultVersion },
    textures := { generator := "placeholder", ffmpeg := "ffmpeg", codec := "libx264",
                  preset := "ultrafast", pixelFormat := "yuv420p", minDuration := 0.1 },
    keying := Keying.Params.standard,
    render := { enabled := false, melt := ({} : KeyedComposite.Render.Melt).binary,
                output := "output.mp4", vcodec := ({} : KeyedComposite.Render.Melt).vcodec,
                acodec := ({} : KeyedComposite.Render.Melt).acodec,
                preset := ({} : KeyedComposite.Render.Melt).preset,
                crf := ({} : KeyedComposite.Render.Melt).crf },
    logging := { level := "info", format := "console", file := "" } }

def userFile : String := "~/.config/keyswap/config.toml"

def projectFile : String := "keyswap.toml"

def textureOptions (s : Settings) : Texture.Options :=
  { ffmpeg := s.textures.ffmpeg, codec := s.textures.codec, preset := s.textures.preset,
    pixelFormat := s.textures.pixelFormat, minDuration := s.textures.minDuration }

def melt (s : Settings) : KeyedComposite.Render.Melt :=
  { binary := s.render.melt, vcodec := s.render.vcodec, acodec := s.render.acodec,
    preset := s.render.preset, crf := s.render.crf }

end KeyedComposite.Settings
