import KeyedComposite.Numeric.Word
import KeyedComposite.Text.Blank
import KeyedComposite.Text.LowerCase

/-! # Severity levels

A level is an integer; the named levels are debug (-4), info (0), warn (4) and error (8).
Each integer falls in the band of the greatest named level not above it (debug for all
below info), and its name is the band's word with the distance from the band's level
after it (`INFO`, `WARN+2`, `DEBUG-4`).

A configured level is read case-blind and trimmed: `debug`, `warn` or `warning`, `error`,
and anything else means info; the empty text and those words are the valid settings.
-/
namespace KeyedComposite.Log

/-- A severity; higher is more severe. -/
structure Level where
  rank : Int
  deriving DecidableEq, Repr

namespace Level

def debug : Level := ⟨-4⟩
def info : Level := ⟨0⟩
def warn : Level := ⟨4⟩
def error : Level := ⟨8⟩

def band (l : Level) : String × Level :=
  if l.rank < info.rank then ("DEBUG", debug)
  else if l.rank < warn.rank then ("INFO", info)
  else if l.rank < error.rank then ("WARN", warn)
  else ("ERROR", error)

def label (l : Level) : String := (band l).1

def name (l : Level) : String :=
  let (word, base) := band l
  let d := l.rank - base.rank
  if d = 0 then word else word ++ (if d > 0 then "+" else "") ++ decimal d

def ofSetting (s : String) : Level :=
  match LowerCase.lower (Blank.trim s) with
  | "debug" => debug
  | "warn" | "warning" => warn
  | "error" => error
  | _ => info

def isSetting (s : String) : Bool :=
  ["", "debug", "info", "warn", "warning", "error"].contains (LowerCase.lower (Blank.trim s))

end Level

end KeyedComposite.Log
