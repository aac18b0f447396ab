import KeyedComposite.Project.Interval
import KeyedComposite.Host.Path
import KeyedComposite.Text.LowerCase
import KeyedComposite.Text.Blank
import KeyedComposite.Numeric.Fixed
import KeyedComposite.Failure
import KeyedComposite.Host.Programs

/-! # Texture generators

A texture generator fills the texture track of one interval. `none` makes nothing, so
that the interval keeps its stand-in colour; `placeholder` renders an animated gradient
with a video encoder. Generators are chosen by name, case and surrounding blanks aside.

A placeholder lasts as long as its interval, but at least its minimum duration, and cycles
through ten colour pairs by interval index (the index modulo ten, cut toward zero, so that
a negative remainder names no pair). Texture files are named `texture_NN.mp4` in their
directory. `generate` runs the encoder on the host and returns the texture's path.
-/
namespace KeyedComposite.Texture

/-- Settings of the generators, as configured; empty or nonpositive ones take defaults. -/
structure Options where
  ffmpeg : String := ""
  codec : String := ""
  preset : String := ""
  pixelFormat : String := ""
  minDuration : Float := 0

/-- The settings of a gradient placeholder. -/
structure Placeholder where
  ffmpeg : String
  codec : String
  preset : String
  pixelFormat : String
  minDuration : Float

def Placeholder.ofOptions (o : Options) : Placeholder :=
  { ffmpeg := if o.ffmpeg = "" then "ffmpeg" else o.ffmpeg,
    codec := if o.codec = "" then "libx264" else o.codec,
    preset := if o.preset = "" then "ultrafast" else o.preset,
    pixelFormat := if o.pixelFormat = "" then "yuv420p" else o.pixelFormat,
    minDuration := if o.minDuration ≤ 0 then 0.1 else o.minDuration }

/-- A texture generator. -/
inductive Generator where
  | none
  | placeholder (p : Placeholder)

/-- A generator name that names none. -/
structure UnknownGenerator where
  name : String

def generatorNames : List String := ["none", "placeholder"]

def UnknownGenerator.message (e : UnknownGenerator) : String :=
  "unknown texture generator " ++ Quoted.quote e.name ++ " (want one of " ++
    ", ".intercalate generatorNames ++ ")"

def Generator.named (name : String) (o : Options) : Except UnknownGenerator Generator :=
  match LowerCase.lower (Blank.trim name) with
  | "placeholder" => .ok (.placeholder (Placeholder.ofOptions o))
  | "none" => .ok .none
  | _ => .error ⟨name⟩

def outputPath (dir : String) (index : Int) : String :=
  PathName.join [dir, "texture_" ++ padded 2 index ++ ".mp4"]

def gradientPairs : List (String × String) :=
  [("red", "purple"), ("blue", "cyan"), ("green", "yellow"), ("orange", "pink"),
   ("magenta", "blue"), ("cyan", "green"), ("yellow", "red"), ("purple", "magenta"),
   ("pink", "orange"), ("red", "blue")]

def gradientAt (i : Int) : Except Fault (String × String) :=
  let r := Int.tmod i 10
  if r < 0 then .error (.indexOutOfRange r) else .ok (gradientPairs.getD r.toNat ("", ""))

def Placeholder.args (p : Placeholder) (iv : Interval) (output : String) (f : FrameFormat) :
    Except Fault (List String) := do
  let (c0, c1) ← gradientAt iv.index
  let seconds := iv.durationSeconds
  let duration := if seconds < p.minDuration then p.minDuration else seconds
  let source := "gradients=s=" ++ decimal f.width ++ "x" ++ decimal f.height ++ ":c0=" ++ c0 ++
    ":c1=" ++ c1 ++ ":speed=1:d=" ++ fixed 4 duration
  return ["-y", "-f", "lavfi", "-i", source, "-r", f.rateText, "-c:v", p.codec,
    "-pix_fmt", p.pixelFormat, "-preset", p.preset, output]

/-- Why a texture was not made: its arguments cannot be formed, or the encoder failed. -/
inductive TextureError where
  | fault (f : Fault)
  | encoder (index : Int) (cause : Host.RunError)

def TextureError.message : TextureError → String
  | .fault f => f.message
  | .encoder i e => "ffmpeg texture " ++ padded 2 i ++ ": " ++ e.message ++ ": "

def Placeholder.generate (p : Placeholder) (iv : Interval) (output : String) (f : FrameFormat) :
    Except TextureError String := do
  let _ ← (p.args iv output f).mapError TextureError.fault
  (Host.run p.ffmpeg).mapError (TextureError.encoder iv.index)
  return output

end KeyedComposite.Texture
