import RoadTraffic.Road.Advance

/-!
# The history of a single road

A road by itself can receive cars, advance, and have its signal and its speed
set.  A history is a list of such actions; running it gives the road as it ends up
and the cars that have departed, in the order of their departures.
-/

namespace RoadTraffic

/-- What can be done to a single road. -/
inductive RoadAction where
  | receive (car : Car)
  | advance (followingDistance : Float32)
  | setSignal (signal : Signal)
  | setSpeed (speed : Float32)
deriving DecidableEq

namespace Road

/-- The road after an action, and the cars that have left it. -/
def act (road : Road) : RoadAction → Road × List Car
  | .receive car => (road.receive car, [])
  | .advance followingDistance => road.advance followingDistance
  | .setSignal signal => (road.setSignal signal, [])
  | .setSpeed speed => ({ road with speed }, [])

/-- The road after a history, and all cars that have left it. -/
def run (road : Road) : List RoadAction → Road × List Car
  | [] => (road, [])
  | action :: later =>
    let (acted, left) := road.act action
    let (final, leftLater) := acted.run later
    (final, left ++ leftLater)

@[simp] theorem run_nil (road : Road) : road.run [] = (road, []) := rfl

theorem run_cons (road : Road) (action : RoadAction) (later : List RoadAction) :
    road.run (action :: later) =
      (((road.act action).1.run later).1,
        (road.act action).2 ++ ((road.act action).1.run later).2) := rfl

theorem run_append (road : Road) (first second : List RoadAction) :
    road.run (first ++ second) =
      (((road.run first).1.run second).1,
        (road.run first).2 ++ ((road.run first).1.run second).2) := by
  induction first generalizing road with
  | nil => simp
  | cons action later ih => simp [run_cons, ih, List.append_assoc]

end Road

end RoadTraffic
