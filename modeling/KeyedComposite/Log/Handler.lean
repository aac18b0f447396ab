import KeyedComposite.Log.Console
import KeyedComposite.Log.JsonLine

/-! # Log writers

A writer has a style (console lines, optionally coloured, or JSON lines), a threshold
level, and the attributes and groups added to it, in the order they were added. It
accepts a record whose level is at least the threshold and turns it into one line.

A writer is made from a level setting and a format name, read case-blind and trimmed:
empty or `console`, or `json`; any other format is refused with its text as given.
-/
namespace KeyedComposite.Log

/-- How lines are written. -/
inductive Style where
  | console (color : Bool)
  | json

/-- A log writer. -/
structure Handler where
  style : Style
  threshold : Level
  steps : List Step := []

/-- A format name that names no style. -/
structure FormatError where
  format : String

def FormatError.message (e : FormatError) : String :=
  "log format: unsupported value " ++ Quoted.quote e.format

namespace Handler

def new (level format : String) (color : Bool) : Except FormatError Handler :=
  let threshold := Level.ofSetting level
  match LowerCase.lower (Blank.trim format) with
  | "" | "console" => .ok { style := .console color, threshold }
  | "json" => .ok { style := .json, threshold }
  | _ => .error ⟨format⟩

def withAttrs (h : Handler) (as : List Attr) : Handler := { h with steps := h.steps ++ [.attrs as] }

def withGroup (h : Handler) (name : String) : Handler :=
  { h with steps := h.steps ++ [.group name] }

def withComponent (h : Handler) (name : String) : Handler :=
  h.withAttrs [.field "component" (.str name)]

def enabled (h : Handler) (l : Level) : Bool := decide (h.threshold.rank ≤ l.rank)

/-- The line of a record. Console lines ignore groups with an empty name. -/
def write (h : Handler) (r : Record) : String :=
  match h.style with
  | .console color =>
    let groups := h.steps.filterMap fun
      | .group g => if g = "" then none else some g
      | .attrs _ => none
    let attrs := h.steps.flatMap fun
      | .attrs as => as
      | .group _ => []
    Console.line color groups attrs r
  | .json => JsonLine.line h.steps r

def writeAll (h : Handler) (rs : List Record) : String :=
  String.join ((rs.filter (h.enabled ·.level)).map h.write)

end Handler

end KeyedComposite.Log
