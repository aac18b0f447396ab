import KeyedComposite.Settings.Check
import KeyedComposite.Settings.Decode

/-! # Loading settings

`load` finds the settings file, decodes it over the defaults and finalizes the result.
A path given explicitly is expanded; when nothing is there the defaults are used, and a
path that cannot be looked at is an error. With no path, the user's file is used when it
is a file, else the project's file in the working directory when it is a file, else the
defaults, reported under the user's file.
-/
namespace KeyedComposite.Settings

open Host

/-- Why settings could not be loaded. -/
inductive LoadError where
  /-- The settings file's path needs a home directory and none is known. -/
  | noHome
  | stat (e : PathError)
  | read (path : String) (e : PathError)
  | decode (path : String) (e : DecodeError)
  | invalid (e : SettingsError)

/-- The text of a load error. A decoding that crashed stops the program where it is, so
its text reaches the caller bare, without the file's path in front. -/
def LoadError.message : LoadError → String
  | .noHome => noHomeText
  | .stat e => "stat config: " ++ e.message
  | .read path e => "parse config " ++ path ++ ": toml: " ++ e.message
  | .decode _ (.crashed m) => m
  | .decode path e => "parse config " ++ path ++ ": " ++ e.message
  | .invalid e => e.message

def LoadError.isCrash : LoadError → Bool
  | .decode _ (.crashed _) => true
  | _ => false

def isFile (w : Workspace) (p : String) : Bool :=
  match w.stat p with
  | .ok (.file _) => true
  | _ => false

def resolvePath (w : Workspace) (path : String) : Except LoadError (String × Bool) := do
  if path ≠ "" then
    let some expanded := expandPath w path | throw .noHome
    match w.stat expanded with
    | .ok _ => return (expanded, true)
    | .error e =>
      if e.errno = .notFound then return (expanded, false) else throw (.stat e)
  else
    let some user := expandPath w userFile | throw .noHome
    let project := PathName.abs w.cwd projectFile
    if isFile w user then return (user, true)
    else if isFile w project then return (project, true)
    else return (user, false)

/-- Settings that were loaded: the values, the file they came from and whether it was
there. -/
structure Loaded where
  settings : Settings
  path : String
  found : Bool

def load (w : Workspace) (path : String) : Except LoadError Loaded := do
  let (resolved, found) ← resolvePath w path
  let base ← if found then
      match w.readFile resolved with
      | .error e => throw (.read resolved e)
      | .ok text => (decode standard text).mapError (.decode resolved)
    else pure standard
  let settings ← (finalize w base).mapError .invalid
  return { settings, path := resolved, found }

end KeyedComposite.Settings
