import KeyedComposite.Toml.Document

/-! # Reading date-time tokens

A date-time token is cut out of a document by its characters alone; whether it names a
moment is found when its value is stored. A date is `YYYY-MM-DD` naming a day of the
proleptic Gregorian calendar; a time is `HH:MM:SS` with hours below 24, minutes below 60
and seconds up to 60 (a leap second), then optionally a point and at least one digit of
fraction; a local date-time joins a date and a time by `T`, `t` or a blank; an offset
date-time follows it with `Z`, `z` or `±HH:MM`, hours below 24 and minutes below 60.

`TimeForm.check` returns the first fault it meets, reading left to right, with the
message that names it.
-/
namespace KeyedComposite.Toml

namespace DateTime

def digits (cs : List Char) : Except String Nat :=
  cs.foldlM (fun n c =>
    if '0' ≤ c ∧ c ≤ '9' then .ok (10 * n + (c.toNat - '0'.toNat))
    else .error "expected digit (0-9)") 0

def isLeap (y : Nat) : Bool := y % 4 = 0 ∧ (y % 100 ≠ 0 ∨ y % 400 = 0)

def daysIn (m y : Nat) : Nat :=
  if m = 2 ∧ isLeap y then 29 else [31, 28, 31, 30, 31, 30, 31, 31, 30, 31, 30, 31].getD (m - 1) 0

def isDate (y m d : Nat) : Bool := 0 < m ∧ m < 13 ∧ 0 < d ∧ d ≤ daysIn m y

def date (cs : List Char) : Except String Unit :=
  if cs.length ≠ 10 ∨ cs[4]? ≠ some '-' ∨ cs[7]? ≠ some '-' then
    .error "dates are expected to have the format YYYY-MM-DD"
  else do
    let y ← digits (cs.take 4)
    let m ← digits ((cs.drop 5).take 2)
    let d ← digits (cs.drop 8)
    if isDate y m d then pure () else .error "impossible date"

def fraction (cs : List Char) : Except String (List Char) :=
  match cs with
  | [] => .error "nanoseconds need at least one digit"
  | c :: _ =>
    if '0' ≤ c ∧ c ≤ '9' then .ok (cs.dropWhile fun c => '0' ≤ c ∧ c ≤ '9')
    else .error "need at least one digit after fraction point"

def time (cs : List Char) : Except String (List Char) := do
  if cs.length < 8 then throw "times are expected to have the format HH:MM:SS[.NNNNNN]"
  let h ← digits (cs.take 2)
  if h > 23 then throw "hour cannot be greater 23"
  if cs[2]? ≠ some ':' then throw "expecting colon between hours and minutes"
  let m ← digits ((cs.drop 3).take 2)
  if m > 59 then throw "minutes cannot be greater 59"
  if cs[5]? ≠ some ':' then throw "expecting colon between minutes and seconds"
  let s ← digits ((cs.drop 6).take 2)
  if s > 60 then throw "seconds cannot be greater 60"
  match cs.drop 8 with
  | '.' :: rest => fraction rest
  | rest => pure rest

def localDateTime (cs : List Char) : Except String (List Char) := do
  if cs.length < 11 then
    throw "local datetimes are expected to have the format YYYY-MM-DDTHH:MM:SS[.NNNNNNNNN]"
  date (cs.take 10)
  if !(cs[10]? = some 'T' ∨ cs[10]? = some 't' ∨ cs[10]? = some ' ') then
    throw "datetime separator is expected to be T or a space"
  time (cs.drop 11)

def offset (cs : List Char) : Except String Unit := do
  let rest ← match cs with
    | 'Z' :: r | 'z' :: r => pure r
    | _ => do
      if cs.length ≠ 6 then throw "invalid date-time timezone"
      if !(cs.head? = some '+' ∨ cs.head? = some '-') then
        throw "invalid timezone offset character"
      if cs[3]? ≠ some ':' then throw "expected a : separator"
      let h ← digits ((cs.drop 1).take 2)
      if h > 23 then throw "invalid timezone offset hours"
      let m ← digits (cs.drop 4)
      if m > 59 then throw "invalid timezone offset minutes"
      pure []
  if !rest.isEmpty then throw "extra bytes at the end of the timezone"

end DateTime

/-- Checks that a date-time token of a form names a moment; the error is the message of
the first fault. -/
def TimeForm.check (form : TimeForm) (text : String) : Except String Unit :=
  let cs := text.toList
  match form with
  | .localDate => DateTime.date cs
  | .localTime => do
    let rest ← DateTime.time cs
    if !rest.isEmpty then throw "extra characters at the end of a local time"
  | .localDateTime => do
    let rest ← DateTime.localDateTime cs
    if !rest.isEmpty then throw "extra characters at the end of a local date time"
  | .offsetDateTime => do DateTime.offset (← DateTime.localDateTime cs)

end KeyedComposite.Toml
