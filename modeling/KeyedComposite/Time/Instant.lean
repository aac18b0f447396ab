import KeyedComposite.Numeric.Word

/-! # Instants of civil time

An instant is a date of the proleptic Gregorian calendar, a time of day to the
nanosecond, and the offset of its zone from UTC in minutes. It is read from RFC 3339 text
(`2023-05-06T07:08:09.5+02:00`; the fraction may have any number of digits, of which nine
count, and offsets up to `±24:60` are taken) and written back in three ways: RFC 3339 to
the second, RFC 3339 with the fraction (trailing zeros dropped), and the long form
`2023-05-06 07:08:09.5 +0200 +0200` whose last field names the zone (`UTC` for offset
zero). A zero offset is written `Z` in RFC 3339.

`toUtc` moves an instant to offset zero by counting days from the civil calendar.
-/
namespace KeyedComposite

/-- A civil date and time with the offset of its zone. -/
structure Instant where
  year : Int
  month : Nat
  day : Nat
  hour : Nat
  minute : Nat
  second : Nat
  nanos : Nat
  /-- Minutes east of UTC. -/
  offset : Int
  deriving DecidableEq, Repr

namespace Instant

def isLeapYear (y : Int) : Bool := (y % 4 = 0 ∧ y % 100 ≠ 0) ∨ y % 400 = 0

def daysIn (y : Int) (m : Nat) : Nat :=
  match m with
  | 2 => if isLeapYear y then 29 else 28
  | 4 | 6 | 9 | 11 => 30
  | _ => 31

def daysFromCivil (y : Int) (m d : Nat) : Int :=
  let y' := if m ≤ 2 then y - 1 else y
  let era := y' / 400
  let yoe := y' - era * 400
  let mp : Int := if m > 2 then m - 3 else m + 9
  let doy := (153 * mp + 2) / 5 + d - 1
  let doe := yoe * 365 + yoe / 4 - yoe / 100 + doy
  era * 146097 + doe - 719468

def civilFromDays (z : Int) : Int × Nat × Nat :=
  let z := z + 719468
  let era := z / 146097
  let doe := z - era * 146097
  let yoe := (doe - doe / 1460 + doe / 36524 - doe / 146096) / 365
  let doy := doe - (365 * yoe + yoe / 4 - yoe / 100)
  let mp := (5 * doy + 2) / 153
  let d := doy - (153 * mp + 2) / 5 + 1
  let m := if mp < 10 then mp + 3 else mp - 9
  (yoe + era * 400 + (if m ≤ 2 then 1 else 0), m.toNat, d.toNat)

def toUtc (t : Instant) : Instant :=
  let minutes := daysFromCivil t.year t.month t.day * 1440 + t.hour * 60 + t.minute - t.offset
  let (year, month, day) := civilFromDays (minutes / 1440)
  let inDay := (minutes % 1440).toNat
  { t with year, month, day, hour := inDay / 60, minute := inDay % 60, offset := 0 }

/-! ## Reading -/

def digitsValue (cs : List Char) : Nat := cs.foldl (fun n c => 10 * n + (c.toNat - 48)) 0

def fractionNanos (ds : List Char) : Nat :=
  digitsValue (ds.take 9 ++ List.replicate (9 - ds.length) '0')

/-- A field of two digits, or of one digit when it need not be `fixed` and no second
digit follows it: its value and the text after it. -/
def field (fixed : Bool) : List Char → Option (Nat × List Char)
  | a :: b :: rest =>
    if !a.isDigit then none
    else if b.isDigit then some (digitsValue [a, b], rest)
    else if fixed then none
    else some (digitsValue [a], b :: rest)
  | [a] => if a.isDigit ∧ !fixed then some (digitsValue [a], []) else none
  | [] => none

def literal (c : Char) : List Char → Option (List Char)
  | d :: rest => if d = c then some rest else none
  | [] => none

/-- The fraction of a second, a point or comma and at least one digit, of which nine
count: its nanoseconds and the text after it. Without one, nothing is read. -/
def fraction : List Char → Nat × List Char
  | c :: d :: rest =>
    if (c = '.' ∨ c = ',') ∧ d.isDigit then
      let ds := (d :: rest).takeWhile Char.isDigit
      (fractionNanos ds, (d :: rest).drop ds.length)
    else (0, c :: d :: rest)
  | cs => (0, cs)

/-- A zone designator, `Z` or `±hh:mm` with hours up to 24 and minutes up to 60: its
offset in minutes and the text after it. -/
def readZone : List Char → Option (Int × List Char)
  | 'Z' :: rest => some (0, rest)
  | s :: h1 :: h2 :: ':' :: m1 :: m2 :: rest => do
    let (h, _) ← field true [h1, h2]
    let (m, _) ← field true [m1, m2]
    if h > 24 ∨ m > 60 then none
    else if s = '+' then some (h * 60 + m, rest)
    else if s = '-' then some (-((h * 60 + m : Nat) : Int), rest)
    else none
  | _ => none

def readYear (cs : List Char) : Option Int :=
  match cs with
  | [s, a, b, c] =>
    if !([a, b, c].all Char.isDigit) then none
    else if s = '+' then some (digitsValue [a, b, c])
    else if s = '-' then some (-(digitsValue [a, b, c] : Int))
    else if s.isDigit then some (digitsValue cs)
    else none
  | _ => none

/-- An RFC 3339 timestamp, if the text is one. The reading is lenient where RFC 3339
is strict: the year may be a sign and three digits, the hour may have one digit, the
fraction may follow a comma, and a zone's offset may reach 24 hours or 60 minutes. -/
def read? (s : String) : Option Instant := do
  let cs := s.toList
  let year ← readYear (cs.take 4)
  let cs ← literal '-' (cs.drop 4)
  let (month, cs) ← field true cs
  let cs ← literal '-' cs
  let (day, cs) ← field true cs
  let cs ← literal 'T' cs
  let (hour, cs) ← field false cs
  let cs ← literal ':' cs
  let (minute, cs) ← field true cs
  let cs ← literal ':' cs
  let (second, cs) ← field true cs
  let (nanos, cs) := fraction cs
  let (offset, cs) ← readZone cs
  if cs ≠ [] ∨ month < 1 ∨ month > 12 ∨ hour ≥ 24 ∨ minute ≥ 60 ∨ second ≥ 60 ∨ day < 1 ∨
      day > daysIn year month then none
  some { year, month, day, hour, minute, second, nanos, offset }

/-! ## Writing -/

def yearText (y : Int) : String := (if y < 0 then "-" else "") ++ padLeft 4 '0' (natDigits y.natAbs)

def twoDigits (n : Nat) : String := padLeft 2 '0' (natDigits n)

def dateTime (t : Instant) (sep : String) : String :=
  yearText t.year ++ "-" ++ twoDigits t.month ++ "-" ++ twoDigits t.day ++ sep ++
    twoDigits t.hour ++ ":" ++ twoDigits t.minute ++ ":" ++ twoDigits t.second

def fractionText (t : Instant) : String :=
  let ds := (padLeft 9 '0' (natDigits t.nanos)).toList
  let kept := (ds.reverse.dropWhile (· = '0')).reverse
  if kept = [] then "" else "." ++ String.ofList kept

def offsetText (t : Instant) (sep : String) : String :=
  (if t.offset < 0 then "-" else "+") ++ twoDigits (t.offset.natAbs / 60) ++ sep ++
    twoDigits (t.offset.natAbs % 60)

def zoneText (t : Instant) : String := if t.offset = 0 then "Z" else t.offsetText ":"

def rfc3339 (t : Instant) : String := t.dateTime "T" ++ t.zoneText

def rfc3339Nano (t : Instant) : String := t.dateTime "T" ++ t.fractionText ++ t.zoneText

def describe (t : Instant) : String :=
  t.dateTime " " ++ t.fractionText ++ " " ++ t.offsetText "" ++ " " ++
    (if t.offset = 0 then "UTC" else t.offsetText "")

end Instant

end KeyedComposite
