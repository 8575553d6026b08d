import RoadTraffic.Proofs.Road.Resting

/-!
# The outcome of a tick for each place of a queue

The pass of a tick works on the queue in place: it takes cars out while it goes on, and the
room reserved ahead grows from turn to turn.  What it comes to can be said without any of this,
for each place of the queue as it stood before the tick.  With

    room 0          =  followingDistance
    room (i + 1)    =  room i + (length of the car at i + followingDistance)

over all cars of the old queue, the car at place `i` has the outcome that the rule gives it
with `room i` ahead (`outcome`).  The new queue is made of the cars that are kept and the
departures are the others, both in the old order (`partQueue_eq`).

So what becomes of the first cars of a queue is a matter of them alone (`part_take_outcomes`).
And the pass makes one turn for each car (`Pass.once_start`).
-/

namespace RoadTraffic

namespace Pass

variable {σ : Type}

/-- The pass looks at each car of the queue once, in order, and then ends. -/
structure Once (rule : Rule σ) (pass : Pass σ) : Prop where
  /-- The turn of that number finds the car that stood at that place before the pass. -/
  looks : ∀ place < pass.cars.length, ∃ now, pass.turns rule place = some now ∧
    now.cars[now.place]? = pass.cars[place]?
  /-- After as many turns as there are cars none is left. -/
  ends : ∃ last, pass.turns rule pass.cars.length = some last ∧ last.turn? rule = none ∧
    pass.finish rule = last

theorem once_start (rule : Rule σ) (cars : List Car) (ahead : σ) :
    (start cars ahead).Once rule := by
  have hturns := fun front behind => turns_append rule [] behind [] ahead front
  simp only [List.nil_append, List.length_nil] at hturns
  refine ⟨fun place hplace => ?_, ?_⟩
  · have hlength : (cars.take place).length = place :=
      List.length_take_of_le (Nat.le_of_lt hplace)
    have hfront := hturns (cars.take place) (cars.drop place)
    rw [List.take_append_drop, hlength] at hfront
    refine ⟨_, hfront, ?_⟩
    rw [List.getElem?_append_right (Nat.le_refl _), Nat.sub_self, List.getElem?_drop, Nat.add_zero]
    rfl
  · have hall := hturns cars []
    simp only [List.append_nil] at hall
    have hend := turn?_end rule (rule.part ahead cars).kept (rule.part ahead cars).departed
      (cars.foldl rule.behind ahead)
    exact ⟨_, hall, hend, finish_of_turns rule hall hend⟩

end Pass

/-- The car that is left in the queue, if one is. -/
def Move.kept? : Move → Option Car
  | .keep car => some car
  | .depart => none

/-- Parts a queue by what becomes of each car. -/
def Parted.ofOutcomes (outcomes : List (Car × Move)) : Parted where
  kept := outcomes.filterMap (·.2.kept?)
  departed := (outcomes.filter (·.2 = .depart)).map Prod.fst

theorem Parted.ofOutcomes_cons (car : Car) (move : Move) (outcomes : List (Car × Move)) :
    ofOutcomes ((car, move) :: outcomes) = .cons car move (ofOutcomes outcomes) := by
  cases move <;> rfl

namespace Road

/-- The room reserved ahead of a place of the queue. -/
def room (road : Road) (d : Float32) (place : Nat) : Float32 := roomAhead d (road.cars.take place)

/-- What the rule makes of the car at a place of the queue. -/
def outcome (road : Road) (d : Float32) (place : Nat) (car : Car) : Move :=
  match road.course with
  | .straight line =>
    if car.progress < line.length - road.room d place ∨
        (car.progress < line.length ∧ road.signal = .proceed) then
      let progress := Scalar.lesser (car.progress + road.speed) line.length
      .keep { car with progress, pose := ⟨line.pointAt progress, line.heading⟩ }
    else if road.signal = .proceed then .depart
    else .keep car
  | .arc arc =>
    if car.progress.abs < arc.span then
      .keep { car with
        progress := car.progress + arc.direction * road.speed / arc.radius
        pose := arc.poseAt car.progress }
    else .depart

/-- The cars of the queue and what becomes of them, front first. -/
def outcomes (road : Road) (d : Float32) : List (Car × Move) :=
  road.cars.mapIdx fun place car => (car, road.outcome d place car)

variable {road : Road} {d r : Float32} {place : Nat} {car : Car}

@[simp] theorem room_zero (road : Road) (d : Float32) : road.room d 0 = d := rfl

theorem room_succ (h : road.cars[place]? = some car) :
    road.room d (place + 1) = road.room d place + (car.length + d) := by
  rw [room, List.take_add_one, h]
  exact roomAhead_append d _ car

theorem outcome_eq (road : Road) (d : Float32) (place : Nat) (car : Car) :
    road.outcome d place car = road.move d (road.room d place) car := by
  have hproceeds : road.signal.proceeds = true ↔ road.signal = .proceed := by
    cases road.signal <;> simp [Signal.proceeds]
  unfold outcome move
  cases road.course with
  | straight line =>
      simp only [← hproceeds]
      rfl
  | arc arc => rfl

/-- The front of a queue is parted place by place. -/
theorem part_take (road : Road) (d r : Float32) (cars : List Car) (count : Nat) :
    road.part d r (cars.take count) = .ofOutcomes ((cars.mapIdx fun place car =>
      (car, road.move d ((cars.take place).foldl (roomBehind d) r) car)).take count) := by
  induction cars generalizing r count with
  | nil =>
      rw [List.mapIdx_nil, List.take_nil, List.take_nil]
      rfl
  | cons car behind ih =>
      cases count with
      | zero => rfl
      | succ count =>
          rw [List.take_succ_cons, part_cons, ih, List.mapIdx_cons, List.take_succ_cons,
            Parted.ofOutcomes_cons]
          rfl

/-- What becomes of the first cars of a queue is a matter of them alone. -/
theorem part_take_outcomes (road : Road) (d : Float32) (count : Nat) :
    road.part d d (road.cars.take count) = .ofOutcomes ((road.outcomes d).take count) := by
  rw [part_take]
  simp only [outcomes, outcome_eq]
  rfl

theorem partQueue_eq (road : Road) (d : Float32) :
    road.partQueue d = .ofOutcomes (road.outcomes d) := by
  have hall := road.part_take_outcomes d road.cars.length
  have hlength : (road.outcomes d).length = road.cars.length := List.length_mapIdx
  rw [List.take_length, ← hlength, List.take_length] at hall
  rw [partQueue_eq_part, hall]

/-!
## The rule
-/

/-- A tick does to the road what the rule says, in one pass. -/
structure FollowsRule (road : Road) (d : Float32) : Prop where
  first : road.room d 0 = d
  /-- Room is reserved for every car of the old queue, also for those that depart. -/
  next : ∀ place car, road.cars[place]? = some car →
    road.room d (place + 1) = road.room d place + (car.length + d)
  /-- The new queue is made of the cars that are kept, and nothing else changes. -/
  queue : (road.advance d).1 =
    { road with cars := (road.outcomes d).filterMap (·.2.kept?) }
  departed : (road.advance d).2 = ((road.outcomes d).filter (·.2 = .depart)).map Prod.fst
  /-- Together they are the cars of the old queue, each once. -/
  partition : ((road.advance d).1.cars.map Car.tag ++ (road.advance d).2.map Car.tag).Perm
    (road.cars.map Car.tag)
  /-- The pass looks at each car once and ends. -/
  once : match road.course with
    | .straight line => (Pass.start road.cars d).Once
        (StraightTick.on line road.speed road.signal d).rule
    | .arc arc => (Pass.start road.cars ()).Once (ArcTick.on arc road.speed).rule

/-- **The pass follows the rule**, on every road, with any queue, signal and following
distance. -/
theorem advance_followsRule (road : Road) (d : Float32) : road.FollowsRule d := by
  have hpart := road.partQueue_eq d
  refine {
    first := road.room_zero d
    next := fun _ _ => room_succ
    queue := ?_
    departed := congrArg Parted.departed hpart
    partition := ?_
    once := ?_ }
  · rw [advance, hpart]
    rfl
  · have hperm := road.part_perm d d road.cars
    rw [← partQueue_eq_part] at hperm
    exact hperm
  · cases road.course with
    | straight line => exact Pass.once_start ..
    | arc arc => exact Pass.once_start ..

/-- A queue that is out of order, on an open road and with no number for a following distance:
the two cars at the end depart from between those that move. -/
example :
    let cars : List Car := [50, 100, 100, 80].map fun progress =>
      { Car.new ⟨0⟩ 20 with progress }
    let road : Road := { id := ⟨0⟩, course := .straight ⟨⟨0, 0⟩, ⟨100, 0⟩⟩, speed := 30, cars }
    let advanced := road.advance Binary32.nan
    advanced.1.cars.map Car.progress = [80, 100] ∧ advanced.2.map Car.progress = [100, 100] := by
  decide +kernel

end Road

end RoadTraffic
