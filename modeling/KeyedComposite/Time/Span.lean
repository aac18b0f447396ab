import KeyedComposite.Numeric.Word

/-! # Spans of time

A span is a signed whole number of nanoseconds. Its text counts hours, minutes and
seconds (`1h2m3.5s`, `4m0s`, `1.5s`), the fraction of a second without trailing zeros.
A span shorter than a second is counted in the largest unit among milliseconds,
microseconds (`µs`) and nanoseconds that it reaches (`1.5ms`, `250ns`); zero is `0s`.
-/
namespace KeyedComposite

/-- A signed number of nanoseconds. -/
structure Span where
  nanos : Int
  deriving DecidableEq, Repr

namespace Span

/-- The digits of `v mod 10^places` as a fraction without trailing zeros (empty when they
are all zero, with a leading point otherwise), and `v / 10^places`. -/
def fraction (v places : Nat) : String × Nat :=
  let digits := (padLeft places '0' (natDigits (v % Nat.pow 10 places))).toList
  let kept := (digits.reverse.dropWhile (· = '0')).reverse
  (if places = 0 ∨ kept = [] then "" else "." ++ String.ofList kept, v / Nat.pow 10 places)

/-- The text of a span of `u` nanoseconds, without sign. -/
def magnitudeText (u : Nat) : String :=
  if u = 0 then "0s"
  else if u < 1000 then natDigits u ++ "ns"
  else if u < 1000000 then
    let (f, q) := fraction u 3
    natDigits q ++ f ++ "µs"
  else if u < 1000000000 then
    let (f, q) := fraction u 6
    natDigits q ++ f ++ "ms"
  else
    let (f, seconds) := fraction u 9
    let minutes := seconds / 60
    let hours := minutes / 60
    let hourText := if hours > 0 then natDigits hours ++ "h" else ""
    let minuteText := if minutes > 0 then hourText ++ natDigits (minutes % 60) ++ "m" else ""
    minuteText ++ natDigits (seconds % 60) ++ f ++ "s"

def text (s : Span) : String :=
  (if s.nanos < 0 then "-" else "") ++ magnitudeText s.nanos.natAbs

end Span

end KeyedComposite
