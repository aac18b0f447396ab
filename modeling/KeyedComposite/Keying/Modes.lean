import KeyedComposite.Keying.Color
import KeyedComposite.Numeric.FloatRead
import KeyedComposite.Text.LowerCase

/-! # Select modes

Four settings of the select filter take either a name or a number: the colour space
(`rgb` 0, `hci` 1), the selection shape (`box` 0, `ellipsoid` 0.5, `diamond` 1), the edge
(`hard` 0, `fat` 0.35, `normal` 0.6, `thin` 0.7, `slope` 0.9) and the alpha operation
(`overwrite` 0, `max` 0.3, `min` 0.5, `add` 0.7, `sub` 1).

A mode text is trimmed and put in lower case, then matched against the names, then read
as a number; anything else is an unknown mode. A value is shown by the first name whose
value equals it, or else as a number.
-/
namespace KeyedComposite.Keying

/-- The four mode families. -/
inductive ModeKind where
  | colorspace
  | shape
  | edge
  | operation
  deriving DecidableEq, Repr

def ModeKind.word : ModeKind → String
  | .colorspace => "colorspace"
  | .shape => "shape"
  | .edge => "edge"
  | .operation => "operation"

def ModeKind.names : ModeKind → List (String × Float)
  | .colorspace => [("rgb", 0), ("hci", 1)]
  | .shape => [("box", 0), ("ellipsoid", 0.5), ("diamond", 1)]
  | .edge => [("hard", 0), ("fat", 0.35), ("normal", 0.6), ("thin", 0.7), ("slope", 0.9)]
  | .operation => [("overwrite", 0), ("max", 0.3), ("min", 0.5), ("add", 0.7), ("sub", 1)]

/-- A mode text that is neither a name nor a number. -/
structure UnknownMode where
  kind : ModeKind
  text : String
  deriving DecidableEq, Repr

def UnknownMode.message (e : UnknownMode) : String :=
  "unknown " ++ e.kind.word ++ " " ++ Quoted.quote e.text

/-- Equality of binary64 values: equal encodings that are not NaN, or two zeros. -/
def sameValue (a b : Float) : Bool :=
  (Binary64.kind a == .zero && Binary64.kind b == .zero) ||
    (a.toBits == b.toBits && Binary64.kind a != .nan)

def ModeKind.read (k : ModeKind) (text : String) : Except UnknownMode Float :=
  let s := LowerCase.lower (Blank.trim text)
  match k.names.find? (·.1 == s) with
  | some (_, v) => .ok v
  | none =>
    match FloatText.read s with
    | .ok v => .ok v
    | .error _ => .error { kind := k, text }

def ModeKind.nameOf (k : ModeKind) (v : Float) : String :=
  match k.names.find? (fun p => sameValue p.2 v) with
  | some (n, _) => n
  | none => valueText v

end KeyedComposite.Keying
