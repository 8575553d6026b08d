import RoadTraffic.Number.Scalar
import RoadTraffic.Number.Trigonometry

/-!
# Points of the plane

The plane's vertical axis points down, as on a screen, so growing angles turn
clockwise.  All arithmetic is on singles, each operation rounded, in the order
written here.
-/

namespace RoadTraffic

/-- A point of the plane. -/
structure Point where
  x : Float32
  y : Float32
deriving DecidableEq

/-- A place together with the direction faced there, in radians. -/
structure Pose where
  position : Point
  heading : Float32
deriving DecidableEq

/-- A direction, by the cosine and the sine of its angle. -/
structure Direction where
  cos : Float32
  sin : Float32
deriving DecidableEq

/-- The direction of an angle in radians. -/
def Direction.ofAngle (angle : Float32) : Direction :=
  ⟨Trigonometry.cos angle, Trigonometry.sin angle⟩

/-- Which coordinate of a point is refused. -/
inductive PointError where
  | x (reason : NotFinite)
  | y (reason : NotFinite)
deriving DecidableEq

/-- What is wrong, outermost text first. -/
def PointError.chain : PointError → List String
  | .x reason => "Point x coordinate" :: reason.chain
  | .y reason => "Point y coordinate" :: reason.chain

namespace Point

/-- The origin. -/
def origin : Point := ⟨0, 0⟩

/-- The distance between two points. -/
def distance (a b : Point) : Float32 :=
  let dx := a.x - b.x
  let dy := a.y - b.y
  (dx * dx + dy * dy).sqrt

/-- The angle of the direction from one point to another, in radians. -/
def angleTo (a b : Point) : Float32 :=
  Trigonometry.atan2 (b.y - a.y) (b.x - a.x)

/-- The point `distance` away in a direction. -/
def along (a : Point) (direction : Direction) (distance : Float32) : Point where
  x := a.x + distance * direction.cos
  y := a.y + distance * direction.sin

/-- The point `distance` away along `angle`. -/
def offset (a : Point) (angle distance : Float32) : Point :=
  a.along (Direction.ofAngle angle) distance

/-- Do the coordinates compare as equal?  A NaN equals nothing, and the two
zeros are equal. -/
def equal (a b : Point) : Bool := a.x == b.x && a.y == b.y

/-- Refuses points with a coordinate that is not finite. -/
def check (a : Point) : Except PointError Unit := do
  (checkFinite a.x).mapError .x
  (checkFinite a.y).mapError .y

end Point

end RoadTraffic
