import RoadTraffic.Ident
import RoadTraffic.Plane.Course

/-!
# Cars

A car stands in the queue of one road at a time.  Where it is shown, its `pose`,
is written down by the road whenever the car enters or moves.
-/

namespace RoadTraffic

/-- A car. -/
structure Car where
  id : CarId
  /-- The length of the car, kept for life. -/
  length : Float32
  /-- How far the car has come on its road: a distance on a straight, an angle on
  an arc. -/
  progress : Float32
  /-- Where the car is shown. -/
  pose : Pose
deriving DecidableEq

namespace Car

/-- A car that has not entered a road yet. -/
def new (id : CarId) (length : Float32) : Car := ⟨id, length, 0, ⟨Point.origin, 0⟩⟩

/-- The car at the start of a road. -/
def entering (car : Car) (pose : Pose) : Car := { car with progress := 0, pose }

end Car

end RoadTraffic
