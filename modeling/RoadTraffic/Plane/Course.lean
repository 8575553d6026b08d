import RoadTraffic.Plane.Point

/-!
# Courses

The course of a road is the line that its cars follow: a straight line, or an
arc of a circle.  How far a car has come is measured differently on the two.
On a straight it is the distance from the start.  On an arc it is the angle from
the start, growing on clockwise arcs and falling on counterclockwise ones.

The direction of an arc is taken from its flag alone, and its span from its
angles without regard to their order.
-/

namespace RoadTraffic

/-- A straight line from one point to another. -/
structure Straight where
  start : Point
  finish : Point
deriving DecidableEq

namespace Straight

def length (line : Straight) : Float32 := line.start.distance line.finish

/-- The direction of travel. -/
def heading (line : Straight) : Float32 := line.start.angleTo line.finish

/-- The point at a distance from the start. -/
def pointAt (line : Straight) (progress : Float32) : Point :=
  line.start.offset line.heading progress

/-- The point at a fraction of the way, the fraction clamped to lie between 0
and 1. -/
def sample (line : Straight) (fraction : Float32) : Point :=
  line.pointAt (Scalar.clampUnit fraction * line.length)

/-- The points at several fractions of the way; the line is measured once. -/
def samples (line : Straight) (fractions : List Float32) : List Point :=
  let direction := Direction.ofAngle line.heading
  let length := line.length
  fractions.map fun t => line.start.along direction (Scalar.clampUnit t * length)

theorem samples_eq_map (line : Straight) (fractions : List Float32) :
    line.samples fractions = fractions.map line.sample := rfl

end Straight

/-- A part of a circle, between two angles. -/
structure Arc where
  center : Point
  radius : Float32
  startAngle : Float32
  endAngle : Float32
  counterclockwise : Bool
deriving DecidableEq

namespace Arc

/-- The angle between start and end. -/
def span (arc : Arc) : Float32 := (arc.endAngle - arc.startAngle).abs

/-- 1 for clockwise travel, -1 for counterclockwise. -/
def direction (arc : Arc) : Float32 := if arc.counterclockwise then -1 else 1

/-- The point at an angle from the start. -/
def pointAt (arc : Arc) (progress : Float32) : Point :=
  arc.center.offset (arc.startAngle + progress) arc.radius

/-- The direction faced at an angle from the start. -/
def headingAt (arc : Arc) (progress : Float32) : Float32 :=
  arc.startAngle + progress + Trigonometry.halfPi

/-- Place and direction at an angle from the start. -/
def poseAt (arc : Arc) (progress : Float32) : Pose :=
  ⟨arc.pointAt progress, arc.headingAt progress⟩

/-- The point at a fraction of the way, the fraction clamped to lie between 0
and 1. -/
def sample (arc : Arc) (fraction : Float32) : Point :=
  arc.pointAt (arc.direction * Scalar.clampUnit fraction * arc.span)

end Arc

/-- The line that the cars of a road follow. -/
inductive Course where
  | straight (line : Straight)
  | arc (arc : Arc)
deriving DecidableEq

namespace Course

def isStraight : Course → Bool
  | straight _ => true
  | arc _ => false

/-- Where, and facing which way, a car enters. -/
def startPose : Course → Pose
  | straight line => ⟨line.start, line.heading⟩
  | arc a => a.poseAt 0

def startPoint (course : Course) : Point := course.startPose.position

def endPoint : Course → Point
  | straight line => line.finish
  | arc a => a.pointAt (a.direction * a.span)

/-- The distance travelled from start to end. -/
def length : Course → Float32
  | straight line => line.length
  | arc a => a.radius * a.span

/-- The point at a fraction of the way, the fraction clamped to lie between 0
and 1. -/
def sample : Course → Float32 → Point
  | straight line => line.sample
  | arc a => a.sample

/-- The fractions `0 / count`, `1 / count`, …, `count / count`. -/
def fractions (count : Nat) : List Float32 :=
  (List.range (count + 1)).map fun i => Scalar.ofNat i / Scalar.ofNat count

/-- The points at the fractions `0 / count`, `1 / count`, …, `count / count` of the
way. -/
def samples (course : Course) (count : Nat) : List Point :=
  match course with
  | straight line => line.samples (fractions count)
  | arc a => (fractions count).map a.sample

theorem samples_eq_map (course : Course) (count : Nat) :
    course.samples count = (fractions count).map course.sample := by
  cases course <;> rfl

end Course

/-!
## What makes a course fit for traffic
-/

/-- Why a course is refused. -/
inductive CourseError where
  | startPoint (reason : PointError)
  | endPoint (reason : PointError)
  | zeroLength
  | center (reason : PointError)
  | radius (reason : NotFinite)
  | radiusNotPositive (radius : Float32)
  | startAngle (reason : NotFinite)
  | endAngle (reason : NotFinite)
  | zeroSpan
deriving DecidableEq

/-- What is wrong, outermost text first. -/
def CourseError.chain : CourseError → List String
  | startPoint reason => "Straight start point" :: reason.chain
  | endPoint reason => "Straight end point" :: reason.chain
  | zeroLength => ["Straight segment has zero length"]
  | center reason => "Arc center" :: reason.chain
  | radius reason => "Arc radius" :: reason.chain
  | radiusNotPositive value => ["Arc radius must be positive, got " ++ Decimal.text value]
  | startAngle reason => "Arc start angle" :: reason.chain
  | endAngle reason => "Arc end angle" :: reason.chain
  | zeroSpan => ["Arc segment has zero angular span"]

/-- Refuses a straight with an end that is not finite, or without length. -/
def Straight.check (line : Straight) : Except CourseError Unit := do
  line.start.check.mapError .startPoint
  line.finish.check.mapError .endPoint
  if line.length ≤ 0 then throw .zeroLength

/-- Refuses an arc with a number that is not finite, or without radius or
span. -/
def Arc.check (arc : Arc) : Except CourseError Unit := do
  arc.center.check.mapError .center
  (checkFinite arc.radius).mapError .radius
  if arc.radius ≤ 0 then throw (.radiusNotPositive arc.radius)
  (checkFinite arc.startAngle).mapError .startAngle
  (checkFinite arc.endAngle).mapError .endAngle
  if arc.span ≤ 0 then throw .zeroSpan

/-- Refuses a course that traffic could not follow. -/
def Course.check : Course → Except CourseError Unit
  | .straight line => line.check
  | .arc a => a.check

end RoadTraffic
