import KeyedComposite.Cli.Session

/-! # The command line

A command runs on a workspace: the files and directories a command line can reach. This
layer fills one from the host with the paths the command line names, the values of its
`--name=value` words, the two settings files and every directory above them; it runs the
command, prints what the command wrote to its two streams, and stores back every file and
directory the command made or changed, removing the files it removed.

A command that fails writes `Error: ` and its message to the error stream and ends with
status 1; one that stopped at a step it could not take writes `panic: ` and its message
and ends with status 2.
-/
namespace KeyedComposite.Launch

open Host

/-- The texts of a command line that may name paths: its words, the values of its
`--name=value` words, and the two settings files. -/
def candidates (words : List String) : List String :=
  let values := words.filterMap fun w =>
    match w.splitOn "=" with
    | _ :: v :: more => some ("=".intercalate (v :: more))
    | _ => none
  words ++ values ++ [Settings.userFile, Settings.projectFile]

/-- The absolute paths to load for a command line: each candidate, with `~` put in for
the home directory, and the directories above it. -/
def reachable (w : Workspace) (words : List String) : List String :=
  let paths := ((candidates words).filter (· ≠ "")).map fun p =>
    w.absolute ((Settings.expandPath w p).getD p)
  (paths.flatMap fun p => Volume.ancestors p ++ [p]).eraseDups

/-- What a command changed: the entries to write, in the order they were made, and the
paths to remove. -/
def changes (before after : Volume) : List (String × Entry) × List String :=
  let written := after.entries.reverse.filter fun (p, e) => before.get? p != some e
  let removed := (before.entries.filter fun (p, _) => (after.get? p).isNone).map (·.1)
  (written, removed)

def loadEntry (p : String) : IO (Option Entry) := do
  let here ← IO.currentDir
  let path := { here with toString := p }
  if ← path.isDir then return some .directory
  else if ← path.pathExists then
    try return some (.file (← IO.FS.readFile path)) catch _ => return none
  else return none

def load (cwd home : String) (words : List String) : IO Workspace := do
  let w : Workspace := { cwd, home, volume := {} }
  let mut v : Volume := {}
  for p in reachable w words do
    if let some e ← loadEntry p then v := v.put p e
  return { w with volume := v }

def store (before after : Volume) : IO Unit := do
  let (written, removed) := changes before after
  for (p, e) in written do
    match e with
    | .directory => IO.FS.createDirAll p
    | .file c => IO.FS.writeFile p c
  for p in removed do
    try IO.FS.removeFile p catch _ => pure ()

end KeyedComposite.Launch

open KeyedComposite in
/-- Runs the command a command line names against the host's files. -/
def main (words : List String) : IO UInt32 := do
  let cwd := (← IO.currentDir).toString
  let home := (← IO.getEnv "HOME").getD ""
  let w ← Launch.load cwd home words
  let out := Cli.run w words
  IO.print out.stdout
  IO.eprint out.stderr
  Launch.store w.volume out.workspace.volume
  match out.error with
  | some e =>
    if e.isCrash then
      IO.eprintln ("panic: " ++ e.message)
      return 2
    IO.eprintln ("Error: " ++ e.message)
    return 1
  | none => return 0
