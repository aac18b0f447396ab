import KeyedComposite.Keying.Modes
import KeyedComposite.Numeric.FloatRead
import KeyedComposite.Numeric.Shortest
import KeyedComposite.Text.Quoted

/-! # Command-line flags

A flag has a long name, perhaps a one-letter shorthand, a usage line and a kind: text,
switch, real number or keying mode, each with a default. Reading a command line takes
flags and positional arguments in any order:

* `--name=value`, `--name value`, and `--name` alone for a switch (which then turns on);
* `-x value`, `-xvalue`, `-x=value`, and runs of switch shorthands `-xy`;
* `--` ends the flags; `-` alone and the empty word are positional.

The first word that cannot be read ends the reading with an error. `usages` writes the
help lines of a set of flags, sorted by name, with their value names and defaults in a
column after the widest flag.
-/
namespace KeyedComposite.Cli

/-- The kind of a flag's value, with its default. -/
inductive FlagKind where
  | text (default : String)
  | switch (default : Bool)
  | real (default : Float)
  | mode (k : Keying.ModeKind) (default : Float)

/-- A flag's value as set. -/
inductive FlagValue where
  | text (s : String)
  | switch (b : Bool)
  | real (f : Float)

/-- A flag. The shorthand is empty or one ASCII letter. -/
structure Flag where
  name : String
  shorthand : String := ""
  usage : String
  kind : FlagKind

def FlagKind.valueName : FlagKind → String
  | .text _ => "string"
  | .switch _ => ""
  | .real _ => "float"
  | .mode k _ => k.word

def FlagKind.defaultText : FlagKind → String
  | .text d => d
  | .switch b => if b then "true" else "false"
  | .real f => FloatText.general f
  | .mode k f => k.nameOf f

def FlagKind.defaultIsZero (k : FlagKind) : Bool :=
  match k with
  | .text d => d = ""
  | .switch b => !b
  | .real _ => k.defaultText = "0"
  | .mode _ _ => ["false", "<nil>", "", "0"].contains k.defaultText

def FlagKind.implicitValue : FlagKind → Option String
  | .switch _ => some "true"
  | _ => none

def readBool (s : String) : Except String Bool :=
  if ["1", "t", "T", "TRUE", "true", "True"].contains s then .ok true
  else if ["0", "f", "F", "FALSE", "false", "False"].contains s then .ok false
  else .error ("strconv.ParseBool: parsing " ++ Quoted.quote s ++ ": invalid syntax")

def FlagKind.read : FlagKind → String → Except String FlagValue
  | .text _, s => .ok (.text s)
  | .switch _, s => (readBool s).map FlagValue.switch
  | .real _, s => ((FloatText.parse s).map FlagValue.real).mapError (·.message)
  | .mode k _, s => ((k.read s).map FlagValue.real).mapError (·.message)

def Flag.display (f : Flag) : String :=
  if f.shorthand = "" then "--" ++ f.name else "-" ++ f.shorthand ++ ", --" ++ f.name

/-- Why a command line's flags cannot be read. -/
inductive FlagError where
  | badSyntax (word : String)
  | unknownLong (name : String)
  | unknownShort (c : Char) (rest : String)
  | needsValueLong (word : String)
  | needsValueShort (c : Char) (rest : String)
  /-- A value its flag cannot take: the value, the flag as displayed and why. -/
  | invalid (value : String) (flag : String) (cause : String)

def FlagError.message : FlagError → String
  | .badSyntax w => "bad flag syntax: " ++ w
  | .unknownLong n => "unknown flag: --" ++ n
  | .unknownShort c rest => "unknown shorthand flag: " ++ Quoted.quoteChar c ++ " in -" ++ rest
  | .needsValueLong w => "flag needs an argument: " ++ w
  | .needsValueShort c rest =>
    "flag needs an argument: " ++ Quoted.quoteChar c ++ " in -" ++ rest
  | .invalid v f cause =>
    "invalid argument " ++ Quoted.quote v ++ " for " ++ Quoted.quote f ++ " flag: " ++ cause

/-- What was read from a command line: the flags set, in order, and the positional
arguments. -/
structure Reading where
  set : List (String × FlagValue) := []
  args : List String := []

def Reading.changed (r : Reading) (name : String) : Bool := r.set.any (·.1 == name)

def Reading.value? (r : Reading) (name : String) : Option FlagValue :=
  (r.set.reverse.find? (·.1 == name)).map (·.2)

def findLong (flags : List Flag) (name : String) : Option Flag := flags.find? (·.name == name)

def findShort (flags : List Flag) (c : Char) : Option Flag :=
  flags.find? (·.shorthand == String.singleton c)

/-- How an unknown shorthand is named in messages: the first byte of its UTF-8 form is
read as a code point, and that code point's own first UTF-8 byte is shown. ASCII stays
as it is; any other character shows as `Â` or `Ã`, the lead byte of a two-byte form. -/
def leadByteChar (c : Char) : Char :=
  match (String.singleton c).toUTF8.toList with
  | b :: _ =>
    if b < 0x80 then Char.ofNat b.toNat else if b < 0xC0 then '\u00C2' else '\u00C3'
  | [] => c

def assign (f : Flag) (value : String) (r : Reading) : Except FlagError Reading :=
  match f.kind.read value with
  | .ok v => .ok { r with set := r.set ++ [(f.name, v)] }
  | .error cause => .error (.invalid value f.display cause)

/-- Reads a word `--name[=value]`; the value may be the next word. -/
def readLong (flags : List Flag) (word : String) (rest : List String) (r : Reading) :
    Except FlagError (List String × Reading) :=
  let body := (word.drop 2).toString
  if body.isEmpty ∨ body.startsWith "-" ∨ body.startsWith "=" then .error (.badSyntax word)
  else
    let (name, inline) := match body.splitOn "=" with
      | n :: v :: more => (n, some ("=".intercalate (v :: more)))
      | _ => (body, none)
    match findLong flags name with
    | none => .error (.unknownLong name)
    | some f =>
      match inline, f.kind.implicitValue, rest with
      | some v, _, _ => do return (rest, ← assign f v r)
      | none, some v, _ => do return (rest, ← assign f v r)
      | none, none, v :: rest' => do return (rest', ← assign f v r)
      | none, none, [] => .error (.needsValueLong word)

def readShorts (flags : List Flag) : List Char → List String → Reading →
    Except FlagError (List String × Reading)
  | [], rest, r => .ok (rest, r)
  | c :: more, rest, r =>
    if "test.".toList.isPrefixOf (c :: more) then .ok (rest, r)
    else
      match findShort flags c with
      | none => .error (.unknownShort (leadByteChar c) (String.ofList (c :: more)))
      | some f =>
        match more, f.kind.implicitValue, rest with
        | '=' :: v :: vs, _, _ => do return (rest, ← assign f (String.ofList (v :: vs)) r)
        | _, some v, _ => do readShorts flags more rest (← assign f v r)
        | _ :: _, none, _ => do return (rest, ← assign f (String.ofList more) r)
        | [], none, v :: rest' => do return (rest', ← assign f v r)
        | [], none, [] => .error (.needsValueShort c (String.singleton c))

def readWords (flags : List Flag) : Nat → List String → Reading → Except FlagError Reading
  | 0, _, r => .ok r
  | _, [], r => .ok r
  | fuel + 1, w :: rest, r =>
    if w = "--" then .ok { r with args := r.args ++ rest }
    else if w.length < 2 ∨ !w.startsWith "-" then readWords flags fuel rest { r with args := r.args ++ [w] }
    else if w.startsWith "--" then do
      let (rest, r) ← readLong flags w rest r
      readWords flags fuel rest r
    else do
      let (rest, r) ← readShorts flags (w.toList.drop 1) rest r
      readWords flags fuel rest r

def readLine (flags : List Flag) (words : List String) : Except FlagError Reading :=
  readWords flags (words.length + 1) words {}

def Flag.lead (f : Flag) : String :=
  let names := if f.shorthand = "" then "      --" ++ f.name else "  -" ++ f.shorthand ++ ", --" ++ f.name
  let v := f.kind.valueName
  if v = "" then names else names ++ " " ++ v

def Flag.usageText (f : Flag) : String :=
  if f.kind.defaultIsZero then f.usage
  else match f.kind with
    | .text d => f.usage ++ " (default " ++ Quoted.quote d ++ ")"
    | k => f.usage ++ " (default " ++ k.defaultText ++ ")"

def usages (flags : List Flag) : String :=
  let sorted := flags.mergeSort (fun a b => decide (a.name ≤ b.name))
  let width := (sorted.map fun f => f.lead.utf8ByteSize + 1).foldl max 0
  String.join (sorted.map fun f =>
    let gap := String.ofList (List.replicate (width - f.lead.utf8ByteSize) ' ')
    let usage := f.usageText.replace "\n" ("\n" ++ String.ofList (List.replicate (width + 2) ' '))
    f.lead ++ " " ++ gap ++ " " ++ usage ++ "\n")

end KeyedComposite.Cli
