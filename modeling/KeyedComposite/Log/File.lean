import KeyedComposite.Host.Volume
import KeyedComposite.Text.Blank

/-! # Log files

Logs go to the standard error stream and, when a log file is set, also to that file,
which is opened for appending: its directory is made first and the file is created when
missing. What a run writes there carries clock times, so only the file's existence is
part of a run's result here.
-/
namespace KeyedComposite.Log

open Host

/-- Why a log file could not be opened. -/
inductive FileError where
  | directory (e : PathError)
  | unopenable (path : String) (e : PathError)

def FileError.message : FileError → String
  | .directory e => "ensure log directory: " ++ e.message
  | .unopenable p e => "open log file " ++ p ++ ": " ++ e.message

def openFile (w : Workspace) (path : String) : Except FileError Workspace := do
  let p := Blank.trim path
  if p = "" then return w
  let dir := PathName.dir p
  let w ← if dir = "." ∨ dir = "" then pure w else (w.mkdirAll dir).mapError FileError.directory
  (w.openFile p false).mapError (FileError.unopenable p)

end KeyedComposite.Log
