import JudgeRelay.Number.Binary64

/-!
# Time

The relay's clock counts nanoseconds from the start. Timers have a resolution of one
millisecond: a timer set for `d` fires once the clock reaches `d` rounded up to a
whole millisecond. Spans given in seconds as binary64 values are rounded to the
nearest nanosecond.
-/

namespace JudgeRelay

namespace Clock

/-- Nanoseconds in a millisecond. -/
def millisecond : Nat := 1000000

/-- Nanoseconds in a second. -/
def second : Nat := 1000000000

/-- A deadline rounded up to the timer resolution. -/
def tick (deadline : Nat) : Nat := (deadline + millisecond - 1) / millisecond * millisecond

/-- Whether a timer set for `deadline` has fired at time `now`. -/
def due (now deadline : Nat) : Bool := decide (now ≥ tick deadline)

/-- A span in seconds as nanoseconds, to the nearest one (ties to even); negative,
infinite and NaN spans count as zero. -/
def ofSeconds (x : Binary64) : Nat :=
  if x.sign || !x.isFinite then 0 else Binary64.roundScaled (x.significand * second) 1 x.exponent

/-- A time in seconds as a binary64 value, to the nearest one. -/
def toSeconds (nanos : Nat) : Binary64 := Binary64.ofRatio false nanos second

end Clock

end JudgeRelay
