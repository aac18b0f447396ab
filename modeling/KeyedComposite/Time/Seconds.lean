import KeyedComposite.Numeric.RatioRead
import KeyedComposite.Numeric.Shortest
import KeyedComposite.Text.Blank
import KeyedComposite.Text.Quoted

/-! # Time in seconds

A time is an exact rational number of seconds. Its text is read after trimming blanks,
dropping every trailing `s` (the unit) and trimming again: the empty text is zero; a text
with a `/` is a ratio of two base-10 integers, each trimmed, the denominator nonzero; any
other text is an exact decimal or prefixed number (`RatioText.read?`).

`Seconds.text` writes a time as its reduced ratio `num/den`, zero as `0/1`.
-/
namespace KeyedComposite.Seconds

/-- Why a text is not a time; each cause keeps the text as it was given. -/
inductive ReadError where
  | badRatio (text : String)
  | zeroDenominator (text : String)
  | badNumber (text : String)
  deriving DecidableEq, Repr

def ReadError.message : ReadError → String
  | .badRatio t => "invalid rational time " ++ Quoted.quote t
  | .zeroDenominator t => "invalid rational time " ++ Quoted.quote t ++ ": zero denominator"
  | .badNumber t => "invalid time value " ++ Quoted.quote t

def strip (text : String) : String :=
  Blank.trim (Blank.trimEnd (· = 's') (Blank.trim text))

def read (text : String) : Except ReadError Rat :=
  let s := strip text
  if s.isEmpty then .ok 0 else
  match Blank.cut s "/" with
  | some (num, den) =>
    match RatioText.integer? (Blank.trim num), RatioText.integer? (Blank.trim den) with
    | some n, some d => if d = 0 then .error (.zeroDenominator text) else .ok (Rat.divInt n d)
    | _, _ => .error (.badRatio text)
  | none =>
    match RatioText.read? s with
    | some r => .ok r
    | none => .error (.badNumber text)

def text (r : Rat) : String := decimal r.num ++ "/" ++ natDigits r.den

def sign (r : Rat) : Int := if r.num < 0 then -1 else if r.num = 0 then 0 else 1

def toBinary64 (r : Rat) : Float × Bool :=
  let (f, exact) := Binary64.quotient r.num.natAbs r.den
  (if r.num < 0 then Float.ofBits (f.toBits ||| Binary64.signBit) else f, exact)

def toFloat (r : Rat) : Float := (toBinary64 r).1

end KeyedComposite.Seconds
