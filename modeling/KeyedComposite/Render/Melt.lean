import KeyedComposite.Numeric.Word
import KeyedComposite.Host.Programs

/-! # Render commands

A composite is rendered by the renderer program reading the document and writing through
its encoder consumer with a video codec, an audio codec, a preset and a constant rate
factor. An empty program name means the standard one.

`render` runs the renderer on the host. A failure carries the program's error and the
tail of its output, which is empty since the host's programs write nothing.
-/
namespace KeyedComposite.Render

/-- How a composite is rendered. -/
structure Melt where
  binary : String := "melt"
  vcodec : String := "libx264"
  acodec : String := "aac"
  preset : String := "medium"
  crf : Int := 23

namespace Melt

def program (m : Melt) : String := if m.binary = "" then "melt" else m.binary

def args (m : Melt) (document output : String) : List String :=
  [document, "-consumer", "avformat:" ++ output, "vcodec=" ++ m.vcodec, "acodec=" ++ m.acodec,
   "preset=" ++ m.preset, "crf=" ++ decimal m.crf]

def command (m : Melt) (document output : String) : String :=
  " ".intercalate (m.program :: m.args document output)

/-- Why a render failed: the program could not run or did not succeed. -/
structure RenderError where
  cause : Host.RunError

def RenderError.message (e : RenderError) : String := "melt render: " ++ e.cause.message ++ ": "

def render (m : Melt) (_document _output : String) : Except RenderError Unit :=
  (Host.run m.program).mapError RenderError.mk

end Melt

end KeyedComposite.Render
