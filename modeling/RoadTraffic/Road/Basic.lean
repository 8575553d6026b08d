import RoadTraffic.Car
import RoadTraffic.Signal

/-!
# Roads

A road is a course, a speed, a signal, the roads that follow it, and a queue of
cars.  The queue is ordered along the direction of travel: the head of the list
is the car furthest along, and entering cars join at the back.
-/

namespace RoadTraffic

/-- A road with its queue of cars. -/
structure Road where
  id : RoadId
  course : Course
  /-- World units per tick on a straight; divided by the radius, radians per tick
  on an arc. -/
  speed : Float32
  /-- The cars on the road, front first. -/
  cars : List Car := []
  /-- The roads that a car may drive on to. -/
  successors : List RoadId := []
  signal : Signal := default
deriving DecidableEq

/-- Why a road is refused. -/
inductive RoadError where
  | course (road : RoadId) (reason : CourseError)
  | speed (reason : NotFinite)
  | speedNotPositive (road : RoadId) (speed : Float32)
deriving DecidableEq

/-- What is wrong, outermost text first. -/
def RoadError.chain : RoadError → List String
  | course road reason => ("Invalid geometry for road " ++ road.text) :: reason.chain
  | speed reason => "Road speed" :: reason.chain
  | speedNotPositive road value =>
    ["Road " ++ road.text ++ " speed must be positive, got " ++ Decimal.text value]

namespace Road

def isStraight (road : Road) : Bool := road.course.isStraight

/-- Does the road have no successors? -/
def isDeadEnd (road : Road) : Bool := road.successors.isEmpty

/-- Does the signal show stop? -/
def isStopped (road : Road) : Bool := !road.signal.proceeds

def setSignal (road : Road) (signal : Signal) : Road := { road with signal }

/-- The road with its signal flipped. -/
def toggleSignal (road : Road) : Road := road.setSignal road.signal.toggled

/-- Lets a car enter: it is put at the start of the course, behind all others. -/
def receive (road : Road) (car : Car) : Road :=
  { road with cars := road.cars ++ [car.entering road.course.startPose] }

/-- Refuses a road that traffic could not use. -/
def check (road : Road) : Except RoadError Unit := do
  road.course.check.mapError (.course road.id)
  (checkFinite road.speed).mapError .speed
  if road.speed ≤ 0 then throw (.speedNotPositive road.id road.speed)

end Road

end RoadTraffic
