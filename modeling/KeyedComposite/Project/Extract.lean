import KeyedComposite.Markup.Node
import KeyedComposite.Project.Interval
import KeyedComposite.Text.Normal

/-! # Extracting the keyed clips

The clips of the keyed footage are the `clip` elements, at any depth, whose name equals the
clip name asked for once both are normalized (to canonical composition by default), and
which reference the asset asked for through a direct `video` child. Each yields an interval: its `offset`, `start` and
`duration` times (absent ones are zero, read in that order), and the name of its nearest
ancestor with a nonempty name (or its own name when there is none).

`extract` walks the tree in document order, stops at the first clip with a bad time, and
otherwise returns the intervals sorted by start, stably, numbered from 0 in that order.
-/
namespace KeyedComposite.Project

open Markup

/-- Which clips to extract; an empty field takes its default. -/
structure ExtractOptions where
  assetId : String := ""
  clipName : String := ""

def defaultAssetId : String := "r8"

def defaultClipName : String := "Unkillible Hoodie A"

def ExtractOptions.withDefaults (o : ExtractOptions) : ExtractOptions :=
  { assetId := if o.assetId = "" then defaultAssetId else o.assetId,
    clipName := if o.clipName = "" then defaultClipName else o.clipName }

/-- The time attributes of a clip. -/
inductive TimeField where
  | offset
  | start
  | duration
  deriving DecidableEq, Repr

def TimeField.word : TimeField → String
  | .offset => "offset"
  | .start => "start"
  | .duration => "duration"

/-- A clip whose time attribute cannot be read: its name, the number of clips matched
before it, the attribute and why. -/
structure ExtractError where
  clip : String
  position : Nat
  field : TimeField
  cause : Seconds.ReadError

def ExtractError.message (e : ExtractError) : String :=
  "clip " ++ Quoted.quote e.clip ++ " #" ++ decimal e.position ++ ": " ++ e.field.word ++ ": " ++
    e.cause.message

def referencesAsset (clip : Node) (assetId : String) : Bool :=
  (clip.childrenNamed "video").any (fun v => v.attrOr "ref" "" == assetId)

def parentName (clip : Node) (ancestors : List Node) : String :=
  match ancestors.reverse.findSome? (fun a => (a.attr? "name").filter (· ≠ "")) with
  | some name => name
  | none => clip.attrOr "name" ""

/-- Reads one time attribute (absent: zero). -/
def readTime (clip : Node) (field : TimeField) : Except Seconds.ReadError Rat :=
  Seconds.read (clip.attrOr field.word "0s")

def readInterval (clip : Node) (ancestors : List Node) (position : Nat) :
    Except ExtractError Interval :=
  let name := clip.attrOr "name" ""
  let time (field : TimeField) : Except ExtractError Rat :=
    (readTime clip field).mapError fun e => ⟨name, position, field, e⟩
  do
    let offset ← time .offset
    let start ← time .start
    let duration ← time .duration
    return { index := position, offset, start, duration, parent := parentName clip ancestors }

/-- Whether a node is a keyed clip under the given options (defaults applied), its name and
the clip name compared once normalized. -/
def isKeyedClip (normalize : String → String) (o : ExtractOptions) (n : Node) : Bool :=
  n.localName == "clip" && normalize (n.attrOr "name" "") == normalize o.clipName &&
    referencesAsset n o.assetId

def readMatches (normalize : String → String) (o : ExtractOptions) :
    List (Node × List Node) → List Interval → Except ExtractError (List Interval)
  | [], acc => .ok acc.reverse
  | (n, ancestors) :: rest, acc =>
    if isKeyedClip normalize o n then do
      let iv ← readInterval n ancestors acc.length
      readMatches normalize o rest (iv :: acc)
    else readMatches normalize o rest acc

/-- The keyed intervals of a project, sorted by start and numbered in that order. Clip names
are compared in canonical composition, the normalization of the text library, unless
another one is given. -/
def extract (root : Node) (options : ExtractOptions) (normalize : String → String := Normal.nfc) :
    Except ExtractError (List Interval) := do
  let o := options.withDefaults
  let found ← readMatches normalize o (Node.visits [] root) []
  let sorted := found.mergeSort (fun a b => a.start ≤ b.start)
  return sorted.zipIdx.map fun (iv, i) => { iv with index := i }

end KeyedComposite.Project
