import KeyedComposite.Time.FrameFormat

/-! # Clip intervals

An interval is one matched clip of the edit project: where it sat on the project's timeline
(`offset`), where it starts in the source media (`start`) and how long it lasts
(`duration`), all exact seconds, with its position among the matches and the name of the
element that holds it. Frame numbers at a frame format are whole-frame floors; a length is
never negative.
-/
namespace KeyedComposite

/-- One matched clip, times in exact seconds. -/
structure Interval where
  index : Int := 0
  offset : Rat := 0
  start : Rat := 0
  duration : Rat := 0
  parent : String := ""
  deriving Repr

namespace Interval

def mediaStartFrames (f : FrameFormat) (iv : Interval) : Int := f.frames iv.start

/-- The clip's length in whole frames; a negative count becomes zero. -/
def durationFrames (f : FrameFormat) (iv : Interval) : Int := max 0 (f.frames iv.duration)

def durationSeconds (iv : Interval) : Float := Seconds.toFloat iv.duration

theorem durationFrames_nonneg (f : FrameFormat) (iv : Interval) : 0 ≤ iv.durationFrames f :=
  Int.le_max_left _ _

end Interval

def totalFrames (f : FrameFormat) (ivs : List Interval) : Int :=
  ivs.foldl (fun acc iv => wrap64 (acc + iv.durationFrames f)) 0

end KeyedComposite
