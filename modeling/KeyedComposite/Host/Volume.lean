import KeyedComposite.Host.Path

/-! # Files of the host

A volume maps absolute, clean paths to entries, files with their text or directories; the
root is always a directory. A path names an entry only when every proper ancestor is a
directory: the first missing ancestor makes it `notFound`, the first file among them
`notDirectory`.

A workspace is a volume with a working directory, against which relative paths are
resolved, and a home directory (empty when none is known). Its operations fail the way
the host's system calls do, with the call's name, the path as given and the reason:
reading a directory fails at `read`; opening a directory for writing, or a path below a
file, fails at `open`; `mkdirAll` makes every missing directory of a path, from the top
down, and fails at the first ancestor that is a file. A lock file is opened like a file
for writing, and its lock is taken unless another run holds it.
-/
namespace KeyedComposite.Host

/-- What a path names. -/
inductive Entry where
  | file (content : String)
  | directory
  deriving DecidableEq, Repr

/-- Why a file-system call failed. -/
inductive Errno where
  | notFound
  | notDirectory
  | isDirectory
  | exists
  deriving DecidableEq, Repr

def Errno.text : Errno → String
  | .notFound => "no such file or directory"
  | .notDirectory => "not a directory"
  | .isDirectory => "is a directory"
  | .exists => "file exists"

/-- A failed call: its name, the path as given and the reason. -/
structure PathError where
  op : String
  path : String
  errno : Errno

def PathError.message (e : PathError) : String := e.op ++ " " ++ e.path ++ ": " ++ e.errno.text

/-- Entries by absolute clean path. -/
structure Volume where
  entries : List (String × Entry) := []

namespace Volume

def get? (v : Volume) (p : String) : Option Entry :=
  if p = "/" then some .directory else v.entries.lookup p

def put (v : Volume) (p : String) (e : Entry) : Volume :=
  ⟨(p, e) :: v.entries.filter (·.1 != p)⟩

def erase (v : Volume) (p : String) : Volume := ⟨v.entries.filter (·.1 != p)⟩

theorem get?_put (v : Volume) (p : String) (e : Entry) (h : p ≠ "/") : (v.put p e).get? p = some e := by
  simp [get?, put, h]

def ancestors (p : String) : List String :=
  let parts := (PathName.elements p).filter (· ≠ "")
  (List.range (parts.length - 1)).map fun i => "/" ++ "/".intercalate (parts.take (i + 1))

def resolve (v : Volume) (p : String) : Except Errno Entry :=
  let blocked := (ancestors p).findSome? fun a =>
    match v.get? a with
    | none => some Errno.notFound
    | some (.file _) => some Errno.notDirectory
    | some .directory => none
  match blocked with
  | some e => .error e
  | none => match v.get? p with
    | some e => .ok e
    | none => .error .notFound

end Volume

/-- A volume seen from a working directory, with a home directory, the lock files that other
runs hold and the sixteen bytes the host's random source gives next. -/
structure Workspace where
  cwd : String
  home : String
  volume : Volume
  held : List String := []
  random : Vector UInt8 16 := Vector.replicate 16 0

namespace Workspace

def absolute (w : Workspace) (p : String) : String := PathName.abs w.cwd p

/-- What a path names, or why it names nothing. The empty path names nothing: it is not
read as the working directory. -/
def locate (w : Workspace) (p : String) : Except Errno Entry :=
  if p = "" then .error .notFound else w.volume.resolve (w.absolute p)

def stat (w : Workspace) (p : String) : Except PathError Entry :=
  (w.locate p).mapError fun e => ⟨"stat", p, e⟩

def holds (w : Workspace) (p : String) : Bool := (w.stat p).toBool

def readFile (w : Workspace) (p : String) : Except PathError String :=
  match w.locate p with
  | .error e => .error ⟨"open", p, e⟩
  | .ok .directory => .error ⟨"read", p, .isDirectory⟩
  | .ok (.file c) => .ok c

def fileText? (w : Workspace) (p : String) : Option String := (w.readFile p).toOption

/-- Opens a path for writing, creating an empty file when it is missing; `truncate`
empties an existing file. -/
def openFile (w : Workspace) (p : String) (truncate : Bool) : Except PathError Workspace :=
  let a := w.absolute p
  match w.locate p with
  | .ok .directory => .error ⟨"open", p, .isDirectory⟩
  | .ok (.file _) => .ok (if truncate then { w with volume := w.volume.put a (.file "") } else w)
  | .error .notFound =>
    if p = "" then .error ⟨"open", p, .notFound⟩ else
    match w.volume.resolve (PathName.dir a) with
    | .ok .directory => .ok { w with volume := w.volume.put a (.file "") }
    | .ok (.file _) => .error ⟨"open", p, .notDirectory⟩
    | .error e => .error ⟨"open", p, e⟩
  | .error e => .error ⟨"open", p, e⟩

/-- Writes a file, creating or emptying it first. The volume has no capacity limit and no
device faults, so once the file is open the write goes through. -/
def writeFile (w : Workspace) (p content : String) : Except PathError Workspace := do
  let w ← w.openFile p true
  return { w with volume := w.volume.put (w.absolute p) (.file content) }

def mkdir (w : Workspace) (p : String) : Except PathError Workspace :=
  let a := w.absolute p
  match w.locate p with
  | .ok .directory => .ok w
  | .ok (.file _) => .error ⟨"mkdir", p, .exists⟩
  | .error .notFound =>
    if p = "" then .error ⟨"mkdir", p, .notFound⟩ else
    match w.volume.resolve (PathName.dir a) with
    | .ok .directory => .ok { w with volume := w.volume.put a .directory }
    | .ok (.file _) => .error ⟨"mkdir", p, .notDirectory⟩
    | .error e => .error ⟨"mkdir", p, e⟩
  | .error e => .error ⟨"mkdir", p, e⟩

/-- The text of a path before its last separator, trailing separators aside; `none` when
there is no parent to make first. -/
def parentText (p : String) : Option String :=
  let cs := (p.toList.reverse.dropWhile (· = '/')).reverse
  let before := (cs.reverse.dropWhile (· ≠ '/')).reverse
  if before.length > 1 then
    let parent := before.dropLast
    some (if parent = [] then "/" else String.ofList parent)
  else none

def mkdirAllWith : Nat → Workspace → String → Except PathError Workspace
  | 0, w, _ => .ok w
  | fuel + 1, w, p =>
    match w.stat p with
    | .ok .directory => .ok w
    | .ok (.file _) => .error ⟨"mkdir", p, .notDirectory⟩
    | .error _ => do
      let w ← match parentText p with
        | some parent => mkdirAllWith fuel w parent
        | none => pure w
      w.mkdir p

def mkdirAll (w : Workspace) (p : String) : Except PathError Workspace :=
  mkdirAllWith (p.length + 1) w p

def writeFileAll (w : Workspace) (p content : String) : Except PathError Workspace := do
  let w ← w.mkdirAll (PathName.dir (w.absolute p))
  w.writeFile p content

def remove (w : Workspace) (p : String) : Workspace :=
  { w with volume := w.volume.erase (w.absolute p) }

/-- Opens a lock file, creating it when missing, and takes its advisory lock without
waiting; `none` when another run holds it, as `held` says. -/
def tryLock (w : Workspace) (p : String) : Except PathError (Option Workspace) := do
  let w ← w.openFile p false
  return if w.held.contains (w.absolute p) then none else some w

def homeDir (w : Workspace) : Except String String :=
  if w.home = "" then .error "$HOME is not defined" else .ok w.home

end Workspace

end KeyedComposite.Host
