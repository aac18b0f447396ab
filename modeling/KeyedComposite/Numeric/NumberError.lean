import KeyedComposite.Numeric.Word
import KeyedComposite.Text.Quoted

/-! # Refused number texts

When a number reader refuses a text, the report names the reader, quotes the text (as
bytes, since a text may be cut inside a character) and says whether the text was
malformed or its value out of range.

`readWord` is the reader of signed 64-bit words from decimal text: an optional sign and
digits. The digits are read in order, so a value that outgrows 64 unsigned bits is out
of range even when a character that is no digit follows. A malformed text reads as `0`
and an out-of-range one as the nearest bound.
-/
namespace KeyedComposite

/-- The number readers whose refusals appear in messages. -/
inductive NumberReader where
  | unsigned
  | signed
  | word
  | binary64
  deriving DecidableEq, Repr

def NumberReader.name : NumberReader → String
  | .unsigned => "ParseUint"
  | .signed => "ParseInt"
  | .word => "Atoi"
  | .binary64 => "ParseFloat"

/-- Why a number text was refused. -/
inductive NumberFault where
  | malformed
  | outOfRange
  deriving DecidableEq, Repr

structure NumberError where
  reader : NumberReader
  text : List UInt8
  fault : NumberFault
  deriving DecidableEq, Repr

def NumberError.message (e : NumberError) : String :=
  "strconv." ++ e.reader.name ++ ": parsing " ++ Quoted.quoteBytes e.text ++ ": " ++
    (match e.fault with
     | .malformed => "invalid syntax"
     | .outOfRange => "value out of range")

/-- The digits of a decimal word read in order into an accumulator of 64 unsigned bits:
the value, or the fault met first, a character other than a digit (`malformed`) or a
digit that takes the value past 2^64 - 1 (`outOfRange`). -/
def scanDigits : List Char → Nat → Except NumberFault Nat
  | [], n => .ok n
  | c :: r, n =>
    if !('0' ≤ c ∧ c ≤ '9') then .error .malformed
    else
      let n' := 10 * n + (c.toNat - '0'.toNat)
      if n' ≥ Nat.pow 2 64 then .error .outOfRange else scanDigits r n'

/-- Reads a decimal word: the value (0 when malformed, the nearest bound when out of
range) and the refusal, if any. -/
def readWord (s : String) : Int × Option NumberError :=
  let refuse (v : Int) (f : NumberFault) : Int × Option NumberError :=
    (v, some { reader := .word, text := s.toUTF8.toList, fault := f })
  let (negative, body) := match s.toList with
    | '+' :: r => (false, r)
    | '-' :: r => (true, r)
    | r => (false, r)
  let bound : Int := if negative then -Int.pow 2 63 else Int.pow 2 63 - 1
  match (if body.isEmpty then .error .malformed else scanDigits body 0) with
  | .error .malformed => refuse 0 .malformed
  | .error .outOfRange => refuse bound .outOfRange
  | .ok n =>
    let v : Int := if negative then -(n : Int) else n
    if v > Int.pow 2 63 - 1 ∨ v < -Int.pow 2 63 then refuse bound .outOfRange else (v, none)

end KeyedComposite
