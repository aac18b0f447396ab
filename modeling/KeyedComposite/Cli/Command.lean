import KeyedComposite.Cli.Flag
import KeyedComposite.Text.LowerCase

/-! # Command trees

A command-line tool is a tree of commands, each named by the path of words that leads to
it from the root. A command has a usage line, short and long descriptions, examples, a
rule for its positional arguments, its own flags and persistent flags that its
descendants share, and may or may not run by itself (a command that does not shows its
help instead).

`Tree.find` walks the words of a command line down the tree, passing over flags and their
values, and stops at the first word that names no child. `Tree.dispatch` then reads the
flags of the command found and decides: show its help (asked for with `--help`, or the
command does not run), refuse the arguments, or run it. `Tree.helpText` writes the help
of a command: its description, usage lines, examples, subcommands, flags and the flags it
inherits.

A word at the top that names no command is refused, with the commands whose names are
within two edits of it, or start with it, suggested.
-/
namespace KeyedComposite.Cli

/-- How a command checks its positional arguments. -/
inductive ArgRule where
  /-- No check; at the top of a tree with subcommands, a word that names none is
  refused. -/
  | unchecked
  | exactly (n : Nat)
  | atLeast (n : Nat)
  /-- No arguments: a word is taken for an unknown subcommand. -/
  | none

/-- What a command offers when the shell completes one of its positional arguments,
besides its subcommands. -/
inductive ArgCompleter where
  /-- Nothing: the shell may fall back to file names. -/
  | files
  /-- Nothing, and no file names either. -/
  | noFiles
  /-- The names of the commands below the command the earlier arguments name. -/
  | commandNames

/-- A command of a tree. -/
structure Command where
  path : List String
  use : String
  short : String := ""
  long : String := ""
  examples : String := ""
  args : ArgRule := .unchecked
  flags : List Flag := []
  persistent : List Flag := []
  runnable : Bool := true
  /-- Whether the usage line leaves out `[flags]`. -/
  bareUseLine : Bool := false
  /-- Other names the command answers to. -/
  aliases : List String := []
  /-- A hidden command runs but is never listed or suggested. -/
  hidden : Bool := false
  /-- Whether the command reads flags; one that does not takes every word as an
  argument and has no help flag. -/
  readsFlags : Bool := true
  completer : ArgCompleter := .files

def Command.name (c : Command) : String := (c.use.splitOn " ").headD ""

def Command.answers (c : Command) (word : String) : Bool := c.name == word || c.aliases.contains word

/-- A tree of commands, in the order they were added; the root has the empty path. -/
structure Tree where
  commands : List Command

/-- Why a command line was refused before any command ran. -/
inductive CommandError where
  | flag (e : FlagError)
  /-- A word that names no command, the path of the command it was given to, and the
  suggested command names. -/
  | unknownCommand (word : String) (path : String) (suggestions : List String)
  | argCount (expected received : Nat)
  | tooFewArgs (least received : Nat)

def CommandError.message : CommandError → String
  | .flag e => e.message
  | .unknownCommand w p s =>
    "unknown command " ++ Quoted.quote w ++ " for " ++ Quoted.quote p ++
      (if s.isEmpty then ""
       else "\n\nDid you mean this?\n" ++ String.join (s.map fun n => "\t" ++ n ++ "\n"))
  | .argCount e r =>
    "accepts " ++ toString e ++ " arg(s), received " ++ toString r
  | .tooFewArgs n r =>
    "requires at least " ++ toString n ++ " arg(s), only received " ++ toString r

def editDistance (s t : List UInt8) : Nat :=
  let first := (List.range (t.length + 1))
  let last := s.zipIdx.foldl (fun (prev : List Nat) (a, i) =>
    let row := t.zipIdx.foldl (fun (row : List Nat) (b, j) =>
      let best :=
        if a = b then prev.getD j 0
        else min (min (prev.getD (j + 1) 0) (row.getD j 0)) (prev.getD j 0) + 1
      row ++ [best]) [i + 1]
    row) first
  last.getD t.length 0

namespace Tree

def get? (t : Tree) (path : List String) : Option Command := t.commands.find? (·.path == path)

def children (t : Tree) (path : List String) : List Command :=
  t.commands.filter fun c => c.path.length = path.length + 1 ∧ path.isPrefixOf c.path

def pathText (t : Tree) (path : List String) : String :=
  " ".intercalate (((t.get? []).map (·.name)).toList ++ path)

def isHelp (c : Command) : Bool := c.path.length = 1 ∧ c.name = "help"

/-- Whether a command is offered: it runs, or has an offered child. `fuel` bounds the
depth. -/
def available (t : Tree) : Nat → Command → Bool
  | 0, _ => false
  | fuel + 1, c =>
    !isHelp c && !c.hidden && (c.runnable || (t.children c.path).any (available t fuel))

def isAvailable (t : Tree) (c : Command) : Bool := t.available (t.commands.length + 1) c

def hasAvailableChildren (t : Tree) (path : List String) : Bool :=
  (t.children path).any t.isAvailable

def helpFlag (c : Command) : Flag :=
  { name := "help", shorthand := "h", usage := "help for " ++ c.name, kind := .switch false }

/-- The persistent flags a command inherits, nearest ancestor first, without those it
defines itself. -/
def inherited (t : Tree) (c : Command) : List Flag :=
  let own := c.flags ++ [helpFlag c] ++ c.persistent
  let ancestors := ((List.range c.path.length).reverse.filterMap fun k =>
    t.get? (c.path.take k))
  let flags := ancestors.flatMap (·.persistent)
  flags.filter fun f => !own.any (·.name == f.name)

def ownFlags (c : Command) : List Flag := c.flags ++ [helpFlag c] ++ c.persistent

def flagsOf (t : Tree) (c : Command) : List Flag := ownFlags c ++ t.inherited c

/-- The flags known while the command line is walked down the tree: the help flags are
added only once a command is found. -/
def walkFlags (t : Tree) (c : Command) : List Flag :=
  (c.flags ++ c.persistent ++ t.inherited c).filter (·.name != "help")

def longImplicit (flags : List Flag) (name : String) : Bool :=
  match findLong flags name with
  | some f => f.kind.implicitValue.isSome
  | none => false

def shortImplicit (flags : List Flag) (x : String) : Bool :=
  match x.toList with
  | c :: _ =>
    match findShort flags c with
    | some f => f.kind.implicitValue.isSome
    | none => false
  | [] => false

/-- Whether a word is a flag whose value is the next word. A shorthand word is two bytes
long, so a dash and one character past ASCII is none. -/
def takesNext (flags : List Flag) (w : String) : Bool :=
  (w.startsWith "--" ∧ !w.contains '=' ∧ !longImplicit flags (w.drop 2).toString) ∨
  (w.startsWith "-" ∧ !w.contains '=' ∧ w.utf8ByteSize = 2 ∧
    !shortImplicit flags (w.drop 1).toString)

/-- The words of a command line that are not flags or flag values, up to `--`; a flag that
takes the next word ends the search when at most one word follows it. -/
def commandWords (flags : List Flag) : Nat → List String → List String
  | 0, _ => []
  | _, [] => []
  | fuel + 1, w :: rest =>
    if w = "--" then []
    else if takesNext flags w then
      match rest with
      | _ :: next :: more => commandWords flags fuel (next :: more)
      | _ => []
    else if w ≠ "" ∧ !w.startsWith "-" then w :: commandWords flags fuel rest
    else commandWords flags fuel rest

def dropWord (flags : List Flag) (x : String) : Nat → List String → List String
  | 0, ws => ws
  | _, [] => []
  | fuel + 1, w :: rest =>
    if w = "--" then w :: rest
    else if takesNext flags w then
      match rest with
      | v :: more => w :: v :: dropWord flags x fuel more
      | [] => [w]
    else if !w.startsWith "-" ∧ w = x then rest
    else w :: dropWord flags x fuel rest

def descend (t : Tree) : Nat → Command → List String → Command × List String
  | 0, c, ws => (c, ws)
  | fuel + 1, c, ws =>
    let flags := t.walkFlags c
    match commandWords flags (ws.length + 1) ws with
    | [] => (c, ws)
    | next :: _ =>
      match (t.children c.path).find? (·.answers next) with
      | some child => descend t fuel child (dropWord flags next (ws.length + 1) ws)
      | none => (c, ws)

def suggestions (t : Tree) (path : List String) (typed : String) : List String :=
  ((t.children path).filter t.isAvailable).filterMap fun c =>
    let a := LowerCase.lower typed
    let b := LowerCase.lower c.name
    if editDistance a.toUTF8.toList b.toUTF8.toList ≤ 2 ∨ b.startsWith a then some c.name
    else none

def find (t : Tree) (words : List String) : Except CommandError (Command × List String) := do
  let root ← match t.get? [] with
    | some r => pure r
    | none => throw (.unknownCommand "" "" [])
  let (c, rest) := t.descend (words.length + 1) root words
  match c.args with
  | .unchecked =>
    if c.path = [] ∧ !(t.children []).isEmpty then
      match commandWords (t.walkFlags c) (rest.length + 1) rest with
      | w :: _ => throw (.unknownCommand w (t.pathText c.path) (t.suggestions c.path w))
      | [] => pure ()
  | _ => pure ()
  return (c, rest)

/-- What a command line asks for. -/
inductive Dispatch where
  | help (c : Command)
  | run (c : Command) (r : Reading)

def dispatch (t : Tree) (words : List String) : Except CommandError Dispatch := do
  let (c, rest) ← t.find words
  let r ← if c.readsFlags then (readLine (t.flagsOf c) rest).mapError CommandError.flag
    else pure { args := rest }
  if let some (.switch true) := r.value? "help" then return .help c
  if !c.runnable then return .help c
  match c.args with
  | .exactly n => if r.args.length ≠ n then throw (.argCount n r.args.length)
  | .atLeast n => if r.args.length < n then throw (.tooFewArgs n r.args.length)
  | .none =>
    match r.args with
    | w :: _ => throw (.unknownCommand w (t.pathText c.path) [])
    | [] => pure ()
  | .unchecked => pure ()
  return .run c r

def trimEnd (s : String) : String :=
  String.ofList (s.toList.reverse.dropWhile (fun c => c = ' ' ∨ c = '\n' ∨ c = '\t' ∨ c = '\r')).reverse

def useLine (t : Tree) (c : Command) : String :=
  let line := if c.path = [] then c.use else t.pathText c.path.dropLast ++ " " ++ c.use
  if c.bareUseLine ∨ (line.splitOn "[flags]").length > 1 then line else line ++ " [flags]"

def namePadding (t : Tree) (path : List String) : Nat :=
  max 11 (((t.children path).map fun c => c.name.length).foldl max 0)

/-- The usage part of a command's help, listing `own` as the command's own flags. -/
def usageWith (t : Tree) (c : Command) (own : List Flag) : String :=
  let subs := t.hasAvailableChildren c.path
  let listed := ((t.children c.path).mergeSort fun a b => decide (a.name ≤ b.name)).filter
    fun k => t.isAvailable k || k.name = "help"
  let pad := t.namePadding c.path
  let inheritedFlags := t.inherited c
  "Usage:" ++
  (if c.runnable then "\n  " ++ t.useLine c else "") ++
  (if subs then "\n  " ++ t.pathText c.path ++ " [command]" else "") ++
  (if c.examples ≠ "" then "\n\nExamples:\n" ++ c.examples else "") ++
  (if subs then
    "\n\nAvailable Commands:" ++ String.join (listed.map fun k =>
      "\n  " ++ k.name ++ String.ofList (List.replicate (pad - k.name.length) ' ') ++ " " ++ k.short)
   else "") ++
  "\n\nFlags:\n" ++ trimEnd (usages own) ++
  (if inheritedFlags.isEmpty then "" else "\n\nGlobal Flags:\n" ++ trimEnd (usages inheritedFlags)) ++
  (if subs then
    "\n\nUse \"" ++ t.pathText c.path ++ " [command] --help\" for more information about a command."
   else "") ++ "\n"

def usageText (t : Tree) (c : Command) : String := t.usageWith c (ownFlags c)

def helpText (t : Tree) (c : Command) : String :=
  let about := if c.long ≠ "" then c.long else c.short
  (if about = "" then "" else trimEnd about ++ "\n\n") ++
  (if c.runnable ∨ !(t.children c.path).isEmpty then t.usageText c else "")

end Tree

end KeyedComposite.Cli
