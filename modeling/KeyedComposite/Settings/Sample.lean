import KeyedComposite.Settings.Check

/-! # The sample settings file

`sampleText` is the settings file written for a user to start from: every setting with its
default and a comment on what it does. `writeSample` writes it to a path, making the
directories above it; unless told to overwrite, it refuses a path where something already
is.
-/
namespace KeyedComposite.Settings

open Host

/-- The text of the sample settings file. -/
def sampleText : String :=
  String.join [
    "# keyswap configuration\n",
    "# Copy to ~/.config/keyswap/config.toml and adjust. Command line flags win\n",
    "# over anything set here.\n",
    "\n",
    "[input]\n",
    "# Asset id of the keyed footage in the FCPXML resources.\n",
    "asset_id = \"r8\"\n",
    "# Only clips with exactly this name are extracted.\n",
    "clip_name = \"Unkillible Hoodie A\"\n",
    "# Format resource that supplies frame size and rate.\n",
    "format_id = \"r1\"\n",
    "# Override the asset's media-rep path.\n",
    "# source_video = \"~/Movies/hoodie/A001.mov\"\n",
    "\n",
    "[output]\n",
    "path = \"hoodie.mlt\"\n",
    "texture_dir = \"./textures\"\n",
    "title = \"Hoodie Replacement\"\n",
    "mlt_version = \"7.22.0\"\n",
    "\n",
    "[textures]\n",
    "# \"placeholder\" renders ffmpeg gradients, \"none\" uses solid colors.\n",
    "generator = \"placeholder\"\n",
    "ffmpeg = \"ffmpeg\"\n",
    "codec = \"libx264\"\n",
    "preset = \"ultrafast\"\n",
    "pixel_format = \"yuv420p\"\n",
    "min_duration = 0.1\n",
    "\n",
    "[keying]\n",
    "key_color = \"#505191\"\n",
    "invert = false\n",
    "delta_h = 0.5\n",
    "delta_c = 0.5\n",
    "delta_i = 0.6\n",
    "slope = 0.1\n",
    "# rgb | hci\n",
    "colorspace = \"hci\"\n",
    "# box | ellipsoid | diamond\n",
    "shape = \"ellipsoid\"\n",
    "# hard | fat | normal | thin | slope, or a raw value such as 0.7\n",
    "edge = \"thin\"\n",
    "# overwrite | max | min | add | sub\n",
    "operation = \"min\"\n",
    "alpha_mode = 0.4\n",
    "alpha_amount = 0.3\n",
    "\n",
    "[render]\n",
    "enabled = false\n",
    "melt = \"melt\"\n",
    "output = \"output.mp4\"\n",
    "vcodec = \"libx264\"\n",
    "acodec = \"aac\"\n",
    "preset = \"medium\"\n",
    "crf = 23\n",
    "\n",
    "[logging]\n",
    "# debug | info | warn | error\n",
    "level = \"info\"\n",
    "# console | json\n",
    "format = \"console\"\n",
    "# file = \"~/.local/state/keyswap/keyswap.log\"\n"]

/-- Why the sample could not be written. -/
inductive SampleError where
  | present (path : String)
  | directory (e : PathError)
  | write (e : PathError)

def SampleError.message : SampleError → String
  | .present p => "config already exists at " ++ p
  | .directory e => "create config directory: " ++ e.message
  | .write e => "write sample config: " ++ e.message

def writeSample (w : Workspace) (path : String) (overwrite : Bool) : Except SampleError Workspace := do
  if !overwrite && w.holds path then throw (.present path)
  let dir := PathName.dir path
  let w ← if dir = "" then pure w else (w.mkdirAll dir).mapError SampleError.directory
  (w.writeFile path sampleText).mapError SampleError.write

end KeyedComposite.Settings
