import RoadTraffic.Road.Basic
import RoadTraffic.Road.Pass

/-!
# One tick on a road

A tick makes one pass over the queue of a road (`RoadTraffic.Road.Pass`).  This is what the
pass goes by.

On a straight road room is reserved at the end of the road: the following
distance, and for each car further to the front its length and the following
distance again.  So a car at progress `p`, with `reserved` room ahead,

    moves     if  p < length - reserved,  or  p < length and the road is open,
    departs   if it does not move and the road is open,
    stays     otherwise.

Room is reserved for every car that was in the queue when the tick began, also
for one that departs in this very tick.  A move adds the speed and ends at the
end of the road.

On an arc no room is kept and the signal is not looked at: a car moves while the
angle it has come is below the span, and departs when it is not.  A move shows the
car where it stood before the step.
-/

namespace RoadTraffic

/-- What one tick on a straight road goes by. -/
structure StraightTick where
  line : Straight
  /-- The length of the line. -/
  length : Float32
  /-- The heading of the line. -/
  heading : Float32
  /-- The direction of the heading. -/
  direction : Direction
  speed : Float32
  /-- Is the road open? -/
  proceeds : Bool
  followingDistance : Float32

namespace StraightTick

/-- A tick on a line, with the line measured once for all cars. -/
def on (line : Straight) (speed : Float32) (signal : Signal) (followingDistance : Float32) :
    StraightTick :=
  let heading := line.heading
  ⟨line, line.length, heading, .ofAngle heading, speed, signal.proceeds, followingDistance⟩

variable (tick : StraightTick)

/-- The car one step further on. -/
def step (car : Car) : Car :=
  let progress := Scalar.lesser (car.progress + tick.speed) tick.length
  { car with progress, pose := ⟨tick.line.start.along tick.direction progress, tick.heading⟩ }

/-- What becomes of a car with `reserved` room ahead of it. -/
def move (reserved : Float32) (car : Car) : Move :=
  if car.progress < tick.length - reserved ∨ (car.progress < tick.length ∧ tick.proceeds) then
    .keep (tick.step car)
  else if tick.proceeds then .depart
  else .keep car

/-- The room to reserve ahead of the car behind `car`. -/
def reserveBehind (reserved : Float32) (car : Car) : Float32 :=
  reserved + (car.length + tick.followingDistance)

/-- What a pass goes by.  The room reserved ahead is summed up from car to car. -/
def rule : Rule Float32 := ⟨tick.move, tick.reserveBehind⟩

end StraightTick

/-- What one tick on an arc goes by. -/
structure ArcTick where
  arc : Arc
  /-- The angle travelled per tick, negative on counterclockwise arcs. -/
  angle : Float32

namespace ArcTick

/-- A tick on an arc at a speed. -/
def on (arc : Arc) (speed : Float32) : ArcTick := ⟨arc, arc.direction * speed / arc.radius⟩

variable (tick : ArcTick)

/-- The car one step further on, shown where the step began. -/
def step (car : Car) : Car :=
  { car with progress := car.progress + tick.angle, pose := tick.arc.poseAt car.progress }

/-- What becomes of a car. -/
def move (car : Car) : Move :=
  if car.progress.abs < tick.arc.span then .keep (tick.step car) else .depart

/-- What a pass goes by.  Nothing is summed up. -/
def rule : Rule Unit := ⟨fun _ => tick.move, fun _ _ => ()⟩

end ArcTick

namespace Road

/-- The queue after a tick, and the cars that have left it.  An empty road is not
measured. -/
def partQueue (road : Road) (followingDistance : Float32) : Parted :=
  if road.cars.isEmpty then ⟨[], []⟩
  else
    match road.course with
    | .straight line =>
      ((Pass.start road.cars followingDistance).finish
        (StraightTick.on line road.speed road.signal followingDistance).rule).parted
    | .arc arc => ((Pass.start road.cars ()).finish (ArcTick.on arc road.speed).rule).parted

/-- The road after a tick, and the cars that have left it, in the order they
left. -/
def advance (road : Road) (followingDistance : Float32) : Road × List Car :=
  let parted := road.partQueue followingDistance
  ({ road with cars := parted.kept }, parted.departed)

/-!
## What the pass comes to
-/

/-- The queue of a straight road is parted car by car, empty or not. -/
theorem partQueue_straight {road : Road} {line : Straight} (h : road.course = .straight line)
    (d : Float32) :
    road.partQueue d = (StraightTick.on line road.speed road.signal d).rule.part d road.cars := by
  unfold partQueue
  split
  next empty => rw [List.isEmpty_iff.mp empty, Rule.part]
  next =>
    rw [h]
    exact Pass.finish_start ..

/-- The queue of an arc is parted car by car, empty or not. -/
theorem partQueue_arc {road : Road} {arc : Arc} (h : road.course = .arc arc) (d : Float32) :
    road.partQueue d = (ArcTick.on arc road.speed).rule.part () road.cars := by
  unfold partQueue
  split
  next empty => rw [List.isEmpty_iff.mp empty, Rule.part]
  next =>
    rw [h]
    exact Pass.finish_start ..

@[simp] theorem advance_id (road : Road) (d : Float32) : (road.advance d).1.id = road.id := rfl

@[simp] theorem advance_course (road : Road) (d : Float32) :
    (road.advance d).1.course = road.course := rfl

@[simp] theorem advance_signal (road : Road) (d : Float32) :
    (road.advance d).1.signal = road.signal := rfl

@[simp] theorem advance_successors (road : Road) (d : Float32) :
    (road.advance d).1.successors = road.successors := rfl

end Road

end RoadTraffic
