import KeyedComposite.Cli.Tool
import KeyedComposite.Text.Blank

/-! # Completing a partial command line

The completion scripts hand the tool a command line whose last word is the one being
typed, possibly empty. `Tree.complete` answers with candidates, each a word with an
optional description after a tab, and a directive for the shell:

* the earlier words lead down the tree to a command as in a run (words that name no
  command leave nothing to offer);
* after a flag that takes a value, or in `--flag=` or `-f=`, the word is that flag's
  value, for which nothing is offered and file names are left to the shell;
* a word starting with `-` is completed among the flag names the command inherits and
  then its own, each sorted, leaving out flags already given;
* otherwise, when the command has no positional argument yet and none of its own flags
  was given, the word is completed among its offered subcommands (and the help command
  at the top); then the command's own completer adds its candidates.

A command line that cannot be read (a flag that is not known, a bad value) gets no
candidates and leaves the shell to its defaults. After a `--` the words are no longer
flags, so neither flag names nor flag values are completed.
-/
namespace KeyedComposite.Cli

/-- What a shell does with the candidates: a set of bits. -/
structure Directive where
  bits : Nat
  deriving DecidableEq

namespace Directive

def fallBack : Directive := ⟨0⟩

def noFiles : Directive := ⟨4⟩

def noSpace : Directive := ⟨2⟩

def named : List (Nat × String) :=
  [(1, "ShellCompDirectiveError"), (2, "ShellCompDirectiveNoSpace"),
    (4, "ShellCompDirectiveNoFileComp"), (8, "ShellCompDirectiveFilterFileExt"),
    (16, "ShellCompDirectiveFilterDirs"), (32, "ShellCompDirectiveKeepOrder")]

/-- The names of the bits set, joined by commas; a directive with no bit set is the
default one. -/
def names (d : Directive) : String :=
  if d.bits ≥ 64 then "ERROR: unexpected ShellCompDirective value: " ++ toString d.bits
  else
    match (named.filter fun (b, _) => d.bits / b % 2 = 1).map (·.2) with
    | [] => "ShellCompDirectiveDefault"
    | ns => ", ".intercalate ns

end Directive

/-- Candidates with their directive. -/
structure Candidates where
  items : List String := []
  directive : Directive := .fallBack

def described (word description : String) : String := word ++ "\t" ++ description

/-- Whether a word is a flag as far as its form goes: `--` and a name, or `-` and
shorthands. -/
def isFlagWord (w : String) : Bool :=
  match w.toList with
  | '-' :: '-' :: _ :: _ => true
  | '-' :: c :: _ => c ≠ '-'
  | _ => false

namespace Tree

/-- The flags a command reads, inherited ones included; a command that reads no flags
has only those it inherits. -/
def readableFlags (t : Tree) (c : Command) : List Flag :=
  if c.readsFlags then t.flagsOf c else t.inherited c

def flagNamed (t : Tree) (c : Command) (name : String) : Option Flag :=
  let flags := t.readableFlags c
  match name.toList with
  | [x] => findShort flags x
  | _ => findLong flags name

def flagWordName (w : String) : String :=
  if w.startsWith "--" then (w.drop 2).toString
  else (w.toList.getLast?.map String.singleton).getD ""

/-- Where the word being typed stands: the flag whose value it is, if any, the earlier
words (without the flag's own word when that word comes before), and the text being
completed. A word `-x=v` or `--name=v` is the value `v` of the flag it names; a word
`--=v` names none, so `v` is the value of the word before when that is a flag; otherwise
the word before, when it is a flag without `=`, takes the typed word as its value unless
it is a switch. An error means the named flag is one the command does not have. -/
def valueOf (t : Tree) (c : Command) (words : List String) (typed : String) :
    Except Unit (Option Flag × List String × String) :=
  let equalsForm : Option (String × String) :=
    if typed.startsWith "-" then
      match typed.splitOn "=" with
      | before :: after :: more => some (flagWordName before, "=".intercalate (after :: more))
      | _ => none
    else none
  if !c.readsFlags then .ok (none, words, typed)
  else if typed.startsWith "-" ∧ equalsForm.isNone then .ok (none, words, typed)
  else
    let (name, value, withEquals) := match equalsForm with
      | some (name, value) => (name, value, true)
      | none => ("", typed, false)
    let (name, rest) :=
      if name ≠ "" then (name, words)
      else match words.getLast? with
        | some prev =>
          if isFlagWord prev ∧ !prev.contains '=' then (flagWordName prev, words.dropLast)
          else ("", words)
        | none => ("", words)
    if name = "" then .ok (none, rest, value)
    else
      match t.flagNamed c name with
      | none => .error ()
      | some f =>
        if !withEquals ∧ f.kind.implicitValue.isSome then .ok (none, words, value)
        else .ok (some f, rest, value)

/-- The flag names offered for a typed word: `--name` and `-x` forms that start with it,
with the flag's usage as description. -/
def flagNames (typed : String) (f : Flag) : List String :=
  (if ("--" ++ f.name).startsWith typed then [described ("--" ++ f.name) f.usage] else []) ++
  (if f.shorthand ≠ "" ∧ ("-" ++ f.shorthand).startsWith typed then
    [described ("-" ++ f.shorthand) f.usage] else [])

def sortedFlags (fs : List Flag) : List Flag := fs.mergeSort fun a b => decide (a.name ≤ b.name)

/-- The subcommands of a command offered for a typed word, sorted by name; the second
part says whether the command has any subcommand to offer at all. -/
def subcommandNames (t : Tree) (c : Command) (typed : String) : List String × Bool :=
  let offered := ((t.children c.path).mergeSort fun a b => decide (a.name ≤ b.name)).filter
    fun k => t.isAvailable k || (c.path = [] && isHelp k)
  ((offered.filter (·.name.startsWith typed)).map fun k => described k.name k.short,
    !offered.isEmpty)

def completerCandidates (t : Tree) (c : Command) (args : List String) (typed : String) :
    Option Candidates :=
  match c.completer with
  | .files => none
  | .noFiles => some { directive := .noFiles }
  | .commandNames =>
    match t.find args with
    | .error _ => some { directive := .noFiles }
    | .ok (k, _) => some { items := (t.subcommandNames k typed).1, directive := .noFiles }

/-- The candidates for the last word of a command line. -/
def complete (t : Tree) (line : List String) : Candidates :=
  let typed := line.getLastD ""
  match t.find line.dropLast with
  | .error _ => {}
  | .ok (c, words) =>
    let (flag, words, typed, unknownFlag) := match t.valueOf c words typed with
      | .error () => (none, words, typed, true)
      | .ok (flag, rest, value) => (flag, rest, value, false)
    let read (ws : List String) : Except FlagError Reading :=
      if c.readsFlags then readLine (t.flagsOf c) ws else .ok { args := ws }
    match read words with
    | .error _ => {}
    | .ok r =>
      let flagsOn := !c.readsFlags ||
        match read (words ++ ["--"]) with
        | .ok r' => r'.args.length ≤ r.args.length
        | .error _ => true
      if unknownFlag ∧ flagsOn then {}
      else if r.changed "help" then { directive := .noFiles }
      else if flag.isNone ∧ typed.startsWith "-" ∧ !typed.contains '=' ∧ flagsOn then
        let offered := (sortedFlags (t.inherited c) ++
          sortedFlags (if c.readsFlags then ownFlags c else c.flags ++ c.persistent)).filter
            fun f => !r.changed f.name
        let items := offered.flatMap (flagNames typed)
        let directive := match items with
          | [one] => if one.endsWith "=" then .noSpace else .noFiles
          | _ => .noFiles
        if c.readsFlags then { items, directive }
        else
          match t.completerCandidates c r.args typed with
          | some more => { items := items ++ more.items, directive := more.directive }
          | none => { items, directive }
      else
        let ownGiven := (c.flags ++ [helpFlag c]).any fun f => r.changed f.name
        let (subs, any) :=
          if flag.isNone ∧ r.args.isEmpty ∧ !ownGiven then t.subcommandNames c typed
          else ([], false)
        let base : Candidates :=
          { items := subs, directive := if any then .noFiles else .fallBack }
        if flag.isSome ∧ flagsOn then base
        else
          match t.completerCandidates c r.args typed with
          | some more => { items := base.items ++ more.items, directive := more.directive }
          | none => base

end Tree

/-- The text the request command prints: one candidate a line (without its description
when `descriptions` is off, only its first line, trimmed), then `:` and the directive's
bits. -/
def Candidates.text (cs : Candidates) (descriptions : Bool) : String :=
  let shown (item : String) : String :=
    let item := if descriptions then item else String.ofList (item.toList.takeWhile (· ≠ '\t'))
    Blank.trim ((item.splitOn "\n").headD "")
  String.join (cs.items.map fun i => shown i ++ "\n") ++ ":" ++ toString cs.directive.bits ++ "\n"

def Candidates.note (cs : Candidates) : String :=
  "Completion ended with directive: " ++ cs.directive.names ++ "\n"

end KeyedComposite.Cli
