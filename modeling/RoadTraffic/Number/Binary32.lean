/-!
# Single precision numbers, taken apart and put together

Lengths, angles and speeds are single precision floating-point numbers, and
arithmetic on them is core's `Float32`.  What core does not offer is a way to
compute with their exact values.  It is simple here, because every finite
single is a whole multiple of the least positive one, `2 ^ (-149)`:

    |x| = x.steps * 2 ^ (-149)          with  steps = significand * 2 ^ scale

So an exact magnitude is a natural number, counted in *steps*, and any
nonnegative value known as a fraction of steps is rounded back to the nearest
single by one integer division.

* `steps` reads a finite single, `ofSteps` rounds a fraction to a single.
* `roundHalfEven` is the rounding of both this module and the decimal texts.
-/

namespace RoadTraffic

-- A power of naturals or integers is core's, also where libraries bring others.
attribute [instance (high), default_instance (high)] instPowNat

/-- The integer nearest to `num / den`; a half goes to the even neighbour. -/
def roundHalfEven (num den : Nat) : Nat :=
  let quotient := num / den
  let twice := 2 * (num % den)
  if twice > den ∨ (twice = den ∧ quotient % 2 = 1) then quotient + 1 else quotient

namespace Binary32

/-- The sign bit; set also for `-0` and for some of the NaNs. -/
def negative (x : Float32) : Bool :=
  2 ^ 31 ≤ x.toBits.toNat

/-- The biased exponent field, from 0 to 255. -/
def exponentField (x : Float32) : Nat :=
  x.toBits.toNat / 2 ^ 23 % 2 ^ 8

/-- The fraction field, below `2 ^ 23`. -/
def fractionField (x : Float32) : Nat :=
  x.toBits.toNat % 2 ^ 23

/-- The significand of a finite single: the fraction, with the leading bit of a
normal number made explicit. -/
def significand (x : Float32) : Nat :=
  if exponentField x = 0 then fractionField x else fractionField x + 2 ^ 23

/-- The power of two that a finite single's significand is multiplied by, in
steps. -/
def scale (x : Float32) : Nat :=
  exponentField x - 1

/-- The exact magnitude of a finite single, as a number of steps of
`2 ^ (-149)`.  Infinity counts as `2 ^ 277` steps, what would follow the greatest
finite single. -/
def steps (x : Float32) : Nat :=
  significand x <<< scale x

/-- The number of steps in one unit. -/
def stepsPerUnit : Nat := 2 ^ 149

/-- Infinity's bits; the bits of the finite magnitudes are all below. -/
def infinityBits : Nat := 0x7f800000

/-- The bits of the magnitude nearest to `num / den` steps.

A magnitude with `s` zero bits dropped and `m` kept has the bits
`s * 2 ^ 23 + m`, whether it is subnormal (`s = 0`) or not, and also when
rounding has carried `m` up to `2 ^ 24`. -/
def magnitudeBits (num den : Nat) : Nat :=
  let dropped := (num / den).log2 - 23
  min (dropped * 2 ^ 23 + roundHalfEven num (den <<< dropped)) infinityBits

/-- The single nearest to `num / den` steps, ties to even, with the given
sign. -/
def ofSteps (isNegative : Bool) (num den : Nat) : Float32 :=
  Float32.ofBits (UInt32.ofNat (magnitudeBits num den + if isNegative then 2 ^ 31 else 0))

/-- The single nearest to `num / den`, ties to even, with the given sign. -/
def ofRatio (isNegative : Bool) (num den : Nat) : Float32 :=
  ofSteps isNegative (num * stepsPerUnit) den

/-- A third is rounded to the nearest single, here upwards. -/
example : ofRatio false 1 3 = Float32.ofBits 0x3eaaaaab := by decide +kernel

/-- The quiet NaN. -/
def nan : Float32 := Float32.ofBits 0x7fc00000

/-- Infinity of the given sign. -/
def infinity (isNegative : Bool) : Float32 :=
  ofSteps isNegative (2 ^ 300) 1

/-- One is `2 ^ 149` steps. -/
theorem steps_one : steps 1 = stepsPerUnit := by decide +kernel

end Binary32

end RoadTraffic
