import RoadTraffic.Number.Binary32

/-!
# Sine, cosine and the angle of a vector

The three functions that turn headings into positions and back.  Each computes
its value in fixed point, with `2 ^ (-256)` as the unit, from the exact value
of its argument, and rounds it at the end.

The rounding has two stages: to the 53 significant bits of double precision, and
from there to a single.  Almost always that is the nearest single.  But a value
next to the middle of two singles, so close that 53 bits cannot tell it from the
middle, counts as the middle itself, and goes to the even neighbour.  The angle of
`(2, 7 * 2 ^ (-149))`, a little less than 3.5 steps of `2 ^ (-149)`, is four steps.

* `sin` and `cos` divide the argument by a right angle, with 320 binary places
  of it, so that even the greatest single leaves a rest with 192 good places; the
  rest goes into the alternating series.
* `atan2` takes the exact quotient of the two coordinates, folds it below a
  sixth with the tangent of a difference, and sums the series in powers of
  `t ^ 2 / (1 + t ^ 2)`.

The series are cut off where their rest is below `2 ^ (-130)`.  All intermediate
values are natural numbers: the signs are known beforehand from the quadrant.
-/

namespace RoadTraffic.Trigonometry

/-- The number of binary places. -/
def places : Nat := 256

/-- The number of fixed-point units in one. -/
def one : Nat := 1 <<< places

/-- A right angle with 320 binary places, rounded down. -/
def rightAngle320 : Nat :=
  0x1921fb54442d18469898cc51701b839a252049c1114cf98e804177d4c76273644a29410f31c6809bb

/-- A right angle in fixed-point units. -/
def rightAngle : Nat := rightAngle320 >>> (320 - places)

/-- The product of two fixed-point numbers. -/
def product (a b : Nat) : Nat := (a * b) >>> places

/-- The number nearest to `value` among those with at most 53 significant bits, ties
to even. -/
def toDouble (value : Nat) : Nat :=
  let dropped := value.log2 - 52
  roundHalfEven value (1 <<< dropped) <<< dropped

/-- A fixed-point number rounded to double precision and then to a single, with the
given sign.  A step of `2 ^ (-149)` is `2 ^ 107` units. -/
def toSingle (isNegative : Bool) (value : Nat) : Float32 :=
  Binary32.ofSteps isNegative (toDouble value) (1 <<< (places - 149))

/-!
## Sine and cosine
-/

/-- The first `terms` steps of
`1 - z / (k (k + 1)) * (1 - z / ((k + 2) (k + 3)) * (1 - …))`. -/
def alternating (z : Nat) : (terms : Nat) → (k : Nat) → Nat
  | 0, _ => one
  | terms + 1, k => one - product z (alternating z terms (k + 2)) / (k * (k + 1))

/-- The sine of an angle of at most a right angle. -/
def sineOf (angle : Nat) : Nat :=
  product angle (alternating (product angle angle) 20 2)

/-- The cosine of an angle of at most a right angle. -/
def cosineOf (angle : Nat) : Nat :=
  alternating (product angle angle) 20 1

/-- An angle as a number of right angles, of which only the last two bits
matter, and a rest below a right angle. -/
structure Turn where
  quadrant : Nat
  rest : Nat

/-- The turn of the magnitude of a finite single. -/
def Turn.ofSingle (x : Float32) : Turn :=
  let angle320 := Binary32.steps x <<< 171
  ⟨angle320 / rightAngle320 % 4, (angle320 % rightAngle320) >>> (320 - places)⟩

/-- The sine of an angle in radians. -/
def sin (x : Float32) : Float32 :=
  if x.isFinite then
    let turn := Turn.ofSingle x
    let opposite := turn.quadrant = 2 ∨ turn.quadrant = 3
    toSingle (Binary32.negative x ^^ opposite)
      (if turn.quadrant % 2 = 0 then sineOf turn.rest else cosineOf turn.rest)
  else Binary32.nan

/-- The cosine of an angle in radians. -/
def cos (x : Float32) : Float32 :=
  if x.isFinite then
    let turn := Turn.ofSingle x
    let opposite := turn.quadrant = 1 ∨ turn.quadrant = 2
    toSingle opposite
      (if turn.quadrant % 2 = 0 then cosineOf turn.rest else sineOf turn.rest)
  else Binary32.nan

/-- A sine so close to the middle of two singles that it goes to the even one. -/
example : sin (Float32.ofBits 0x46199998) = Float32.ofBits 0xbeb1fa5e := by decide +kernel

/-- The greatest single is an angle like any other. -/
example : sin (Float32.ofBits 0x7f7fffff) = Float32.ofBits 0xbf0599b3 := by decide +kernel

/-!
## The angle of a vector
-/

/-- The first `terms` steps of
`1 + z * 2k / (2k + 1) * (1 + z * (2k + 2) / (2k + 3) * (1 + …))`. -/
def rising (z : Nat) : (terms : Nat) → (k : Nat) → Nat
  | 0, _ => one
  | terms + 1, k => one + product z (rising z terms (k + 1)) * (2 * k) / (2 * k + 1)

/-- The angle whose tangent is `num / den`, by `terms` terms of the series. -/
def angleBySeries (terms num den : Nat) : Nat :=
  let square := num * num + den * den
  product ((num * den) <<< places / square) (rising ((num * num) <<< places / square) terms 1)

/-- The angle whose tangent is a quarter. -/
def quarterAngle : Nat := angleBySeries 40 1 4

/-- The angle whose tangent is `num / den`, at most three sevenths.  The angle of `t`
differs from that of a quarter by the angle of `(4 t - 1) / (4 + t)`. -/
def slightAngle (num den : Nat) : Nat :=
  if 8 * num ≤ den then angleBySeries 30 num den
  else if den ≤ 4 * num then quarterAngle + angleBySeries 30 (4 * num - den) (4 * den + num)
  else quarterAngle - angleBySeries 30 (den - 4 * num) (4 * den + num)

/-- The angle whose tangent is `num / den`, at most one.  Half a right angle
less the angle of `t` has the tangent `(1 - t) / (1 + t)`. -/
def flatAngle (num den : Nat) : Nat :=
  if 5 * num ≤ 2 * den then slightAngle num den
  else rightAngle / 2 - slightAngle (den - num) (den + num)

/-- The angle above the nearer half of the horizontal axis of a vector with the
given legs.  Along the axes there is nothing to sum. -/
def steepness (rise run : Nat) : Nat :=
  if rise = 0 then 0
  else if run = 0 then rightAngle
  else if rise ≤ run then flatAngle rise run else rightAngle - flatAngle run rise

/-- The legs of a vector up to a common factor: next to an infinite leg a finite
one vanishes, two infinite ones count as equal, and the null vector points along
the horizontal axis. -/
def legs (y x : Float32) : Nat × Nat :=
  if y.isInf then (1, if x.isInf then 1 else 0)
  else if x.isInf then (0, 1)
  else if Binary32.steps y = 0 then (0, 1)
  else (Binary32.steps y, Binary32.steps x)

/-- The angle of the vector `(x, y)` in radians, between minus and plus two
right angles.  Zeros count as a positive or a negative side by their sign. -/
def atan2 (y x : Float32) : Float32 :=
  if y.isNaN || x.isNaN then Binary32.nan
  else
    let (rise, run) := legs y x
    let angle := steepness rise run
    toSingle (Binary32.negative y) (if Binary32.negative x then 2 * rightAngle - angle else angle)

/-- An angle a little below 3.5 steps goes to four steps. -/
example : atan2 (Float32.ofBits 7) 2 = Float32.ofBits 4 := by decide +kernel

/-- The angle of a half turn. -/
def pi : Float32 := 3.1415927

/-- A right angle. -/
def halfPi : Float32 := 1.5707964

/-- A full turn. -/
def tau : Float32 := 6.2831855

end RoadTraffic.Trigonometry
