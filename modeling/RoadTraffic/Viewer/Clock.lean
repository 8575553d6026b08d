import RoadTraffic.Number.Decimal

/-!
# The clock

The viewer ticks the world every thirty milliseconds, whatever the length of its frames.
The time of a frame is added to what was carried over; whole steps are taken off and
ticked, and the rest is carried on.  A frame counts for a quarter of a second at most, and
the first frame for nothing.
-/

namespace RoadTraffic

/-- The time between two ticks, in seconds. -/
def tickSeconds : Decimal := ⟨3, -2⟩

/-- The nanoseconds of a millisecond. -/
def nanosPerMilli : Nat := 10 ^ 6

/-- The time between two ticks, in nanoseconds. -/
def stepNanos : Nat := tickSeconds.digits * 10 ^ (tickSeconds.exponent + 9).toNat

/-- The longest time that a frame counts for, in milliseconds. -/
def longestFrameMillis : Nat := 250

/-- The time not yet ticked away. -/
structure Clock where
  /-- Has there been a frame? -/
  started : Bool := false
  /-- The time carried over, in nanoseconds. -/
  carried : Nat := 0
deriving DecidableEq

namespace Clock

/-- The time that a frame counts for, in nanoseconds. -/
def counted (clock : Clock) (millis : Nat) : Nat :=
  if clock.started then min millis longestFrameMillis * nanosPerMilli else 0

/-- The ticks of a frame, and the clock after it. -/
def advance (clock : Clock) (millis : Nat) : Nat × Clock :=
  let total := clock.carried + clock.counted millis
  (total / stepNanos, ⟨true, total % stepNanos⟩)

end Clock

end RoadTraffic
