import KeyedComposite.Time.Seconds
import KeyedComposite.Numeric.Fixed
import KeyedComposite.Failure

/-! # Frame formats

A frame format is a frame size and an exact frame rate `rateNum / rateDen` frames per
second; all four are signed words. At that rate:

* `frameAt` counts the whole frames in a time: `⌊t · rateNum / rateDen⌋`, kept in a word;
* `secondsOf` is the start time of a frame: `n · rateDen / rateNum`, the product `n · rateDen`
  taken as a word first;
* `clock` is the `HH:MM:SS.mmm` text of a frame's start, milliseconds rounded half up on
  the magnitude, hours not wrapped, a minus sign in front of a negative frame.

A zero in the divisor of any of these is a `Fault`.
-/
namespace KeyedComposite

/-- Frame size and frame rate. -/
structure FrameFormat where
  width : Int
  height : Int
  rateNum : Int
  rateDen : Int
  deriving DecidableEq, Repr

namespace FrameFormat

def standard : FrameFormat := { width := 1920, height := 1080, rateNum := 24000, rateDen := 1001 }

/-- Why a frame format is unusable or cannot be changed. -/
inductive Error where
  | duration (cause : Seconds.ReadError)
  | badDuration (text : String)
  | badSize (width height : Int)
  | badRate (num den : Int)
  deriving DecidableEq, Repr

def Error.message : Error → String
  | .duration e => "frameDuration: " ++ e.message
  | .badDuration t => "invalid frameDuration " ++ Quoted.quote t
  | .badSize w h => "invalid frame size " ++ decimal w ++ "x" ++ decimal h
  | .badRate n d => "invalid frame rate " ++ decimal n ++ "/" ++ decimal d

/-- Frames per second as binary64; zero when the rate's denominator is zero. -/
def fps (f : FrameFormat) : Float :=
  if f.rateDen = 0 then 0 else Binary64.intQuotient f.rateNum f.rateDen

def rateText (f : FrameFormat) : String := decimal f.rateNum ++ "/" ++ decimal f.rateDen

def describe (f : FrameFormat) : String :=
  decimal f.width ++ "x" ++ decimal f.height ++ " @ " ++ f.rateText ++ " (" ++ fixed 3 f.fps ++
    " fps)"

def frameDuration (f : FrameFormat) : Option Rat :=
  if f.rateNum = 0 then none else some (Rat.divInt f.rateDen f.rateNum)

def withFrameDuration (f : FrameFormat) (text : String) : Except Error FrameFormat :=
  match Seconds.read text with
  | .error e => .error (.duration e)
  | .ok d =>
    if d ≤ 0 ∨ ¬ IsWord d.num ∨ ¬ IsWord d.den then .error (.badDuration text)
    else .ok { f with rateNum := d.den, rateDen := d.num }

def validate (f : FrameFormat) : Except Error Unit :=
  if f.width ≤ 0 ∨ f.height ≤ 0 then .error (.badSize f.width f.height)
  else if f.rateNum ≤ 0 ∨ f.rateDen ≤ 0 then .error (.badRate f.rateNum f.rateDen)
  else .ok ()

/-- The number of whole frames in a time (floor), as a word. At a rate with a zero
denominator, where `frameAt` faults, it is zero: a run never gets there, since a project's
format always has a positive rate, and what is proved of frame counts assumes one. -/
def frames (f : FrameFormat) (t : Rat) : Int := wrap64 (t * Rat.divInt f.rateNum f.rateDen).floor

/-- The number of whole frames in a time, a fault at a rate with a zero denominator. -/
def frameAt (f : FrameFormat) (t : Rat) : Except Fault Int :=
  if f.rateDen = 0 then .error .divisionByZero else .ok (f.frames t)

/-- The number of whole frames in a time that may be absent: an absent time holds no frames,
at every rate. -/
def frameCount (f : FrameFormat) : Option Rat → Except Fault Int
  | none => .ok 0
  | some t => f.frameAt t

def secondsOf (f : FrameFormat) (frames : Int) : Except Fault Rat :=
  if f.rateNum = 0 then .error .divisionByZero
  else .ok (Rat.divInt (mul64 frames f.rateDen) f.rateNum)

def clock (f : FrameFormat) (frames : Int) : Except Fault String := do
  let sign := if frames < 0 then "-" else ""
  let magnitude := if frames < 0 then wrap64 (-frames) else frames
  let s ← f.secondsOf magnitude
  let ms := s * 1000 + Rat.divInt 1 2
  let total := wrap64 (Int.tdiv ms.num ms.den)
  let millis := Int.tmod total 1000
  let secs := Int.tmod (Int.tdiv total 1000) 60
  let mins := Int.tmod (Int.tdiv total 60000) 60
  let hours := Int.tdiv total 3600000
  return sign ++ padded 2 hours ++ ":" ++ padded 2 mins ++ ":" ++ padded 2 secs ++ "." ++
    padded 3 millis

end FrameFormat

end KeyedComposite
