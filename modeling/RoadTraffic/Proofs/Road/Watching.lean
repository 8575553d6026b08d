import RoadTraffic.Proofs.Road.Histories
import RoadTraffic.Proofs.Road.Outcomes

/-!
# Cars are not affected by those behind them

Take two histories of one road, the second of which lets more cars enter, at any points of it
(`Crowding`).  The cars that stand on the road before the first of these enters do not notice:
after every action that the histories have in common they stand where they stand in the first,
and they depart in the same ticks, in the same order (`watch_eq_of_crowding`).

A tick decides on a car by the room reserved ahead of it, and so by the cars that are ahead of
it in the queue as the tick finds it.  Two roads that agree in course, speed and signal, and in
the first `count` cars of the queue (`AlikeAhead`), make the same of these cars, whatever the
following distance is; of those that are left they again agree in as many.

Cars are told apart by their places, not by their identities, and the cars of a road may have
any: of the first cars of the queue those that a tick keeps are again the first
(`keptAhead`), and those that depart of them depart before all others.
-/

namespace RoadTraffic

/-- The second history is the first with more cars received, at any points of it. -/
inductive Crowding : (first second : List RoadAction) → Prop
  | done : Crowding [] []
  | both {first second} (action : RoadAction) : Crowding first second →
      Crowding (action :: first) (action :: second)
  | more {first second} (car : Car) : Crowding first second →
      Crowding first (.receive car :: second)

/-- At every point of the first history there is one of the second at which as much of the
first has been done. -/
theorem Crowding.split {first second : List RoadAction} (h : Crowding first second)
    {before after : List RoadAction} (hsplit : first = before ++ after) :
    ∃ before' after', second = before' ++ after' ∧ Crowding before before' ∧
      Crowding after after' := by
  induction h generalizing before with
  | done =>
      obtain ⟨rfl, rfl⟩ := List.append_eq_nil_iff.mp hsplit.symm
      exact ⟨[], [], rfl, .done, .done⟩
  | @both first second action hrest ih =>
      cases before with
      | nil =>
          obtain rfl : action :: first = after := hsplit
          exact ⟨[], action :: second, rfl, .done, .both action hrest⟩
      | cons first before =>
          obtain ⟨rfl, hrest⟩ := List.cons.inj hsplit
          obtain ⟨before', after', rfl, hbefore, hafter⟩ := ih hrest
          exact ⟨action :: before', after', rfl, .both action hbefore, hafter⟩
  | @more first second car hrest ih =>
      obtain ⟨before', after', rfl, hbefore, hafter⟩ := ih hsplit
      exact ⟨.receive car :: before', after', rfl, .more car hbefore, hafter⟩

/-- What is seen of cars that are watched. -/
structure Sight where
  /-- Those that stand on the road, front first. -/
  standing : List Car
  /-- Those that have departed, tick by tick and in the order they left. -/
  departed : List (List Car)
deriving DecidableEq

namespace Road

/-- How many of the first `count` cars of the queue a tick keeps. -/
def keptAhead (road : Road) (d : Float32) (count : Nat) : Nat :=
  ((road.outcomes d).take count).countP (·.2 ≠ .depart)

/-- Watches the first `count` cars of the queue through a history. -/
def watch (road : Road) (count : Nat) : List RoadAction → Sight
  | [] => ⟨road.cars.take count, []⟩
  | .advance d :: later =>
    let left := road.keptAhead d count
    let sight := (road.advance d).1.watch left later
    { sight with departed := (road.advance d).2.take (count - left) :: sight.departed }
  | action :: later => (road.act action).1.watch count later

variable {one two road : Road} {d r : Float32} {count : Nat}

/-!
## The front of a queue in one tick
-/

/-- The cars behind go by the room that the cars ahead leave them. -/
theorem part_append (road : Road) (d r : Float32) (front behind : List Car) :
    road.part d r (front ++ behind) =
      ⟨(road.part d r front).kept ++
          (road.part d (front.foldl (roomBehind d) r) behind).kept,
        (road.part d r front).departed ++
          (road.part d (front.foldl (roomBehind d) r) behind).departed⟩ := by
  induction front generalizing r with
  | nil => rfl
  | cons car front ih =>
      rw [List.cons_append, part_cons, ih, part_cons]
      cases road.move d r car with
      | keep moved => rfl
      | depart => rfl

theorem length_kept_ofOutcomes (outcomes : List (Car × Move)) :
    (Parted.ofOutcomes outcomes).kept.length = outcomes.countP (·.2 ≠ .depart) := by
  induction outcomes with
  | nil => rfl
  | cons outcome outcomes ih =>
      obtain ⟨car, move⟩ := outcome
      rw [Parted.ofOutcomes_cons, List.countP_cons, ← ih]
      cases move with
      | keep moved => rfl
      | depart => rfl

theorem keptAhead_eq (road : Road) (d : Float32) (count : Nat) :
    road.keptAhead d count = (road.part d d (road.cars.take count)).kept.length := by
  rw [part_take_outcomes, length_kept_ofOutcomes, keptAhead]

/-- What a tick makes of the first cars of a queue. -/
theorem advance_front (hcount : count ≤ road.cars.length) :
    (road.advance d).1.cars.take (road.keptAhead d count) =
        (road.part d d (road.cars.take count)).kept ∧
      (road.advance d).2.take (count - road.keptAhead d count) =
        (road.part d d (road.cars.take count)).departed ∧
      road.keptAhead d count ≤ (road.advance d).1.cars.length := by
  have hsplit := road.part_append d d (road.cars.take count) (road.cars.drop count)
  rw [List.take_append_drop, ← partQueue_eq_part] at hsplit
  have hlength := (road.part_perm d d (road.cars.take count)).length_eq
  simp only [List.length_append, List.length_map, List.length_take_of_le hcount] at hlength
  have hgone : count - road.keptAhead d count =
      (road.part d d (road.cars.take count)).departed.length := by
    rw [keptAhead_eq]
    omega
  rw [advance, hsplit, hgone, keptAhead_eq]
  exact ⟨List.take_left, List.take_left, by simp⟩

/-- What a tick does to a car goes by the course, the speed and the signal of the road. -/
theorem part_congr (hcourse : two.course = one.course) (hspeed : two.speed = one.speed)
    (hsignal : two.signal = one.signal) (cars : List Car) :
    two.part d r cars = one.part d r cars := by
  induction cars generalizing r with
  | nil => rfl
  | cons car behind ih => rw [part_cons, part_cons, ih, move, move, hcourse, hspeed, hsignal]

/-!
## Two roads that are alike ahead
-/

/-- The roads agree in how they move cars, and in the first `count` cars. -/
structure AlikeAhead (count : Nat) (one two : Road) : Prop where
  course : two.course = one.course
  speed : two.speed = one.speed
  signal : two.signal = one.signal
  front : two.cars.take count = one.cars.take count
  le_first : count ≤ one.cars.length
  le_second : count ≤ two.cars.length

namespace AlikeAhead

theorem refl (road : Road) : AlikeAhead road.cars.length road road :=
  ⟨rfl, rfl, rfl, rfl, Nat.le_refl _, Nat.le_refl _⟩

/-- A car that enters stands behind all that are watched. -/
theorem take_receive (hcount : count ≤ road.cars.length) (car : Car) :
    (road.receive car).cars.take count = road.cars.take count ∧
      count ≤ (road.receive car).cars.length := by
  rw [receive, List.take_append_of_le_length hcount, List.length_append]
  exact ⟨rfl, Nat.le_add_right_of_le hcount⟩

/-- One more car enters the second road. -/
theorem more (h : AlikeAhead count one two) (car : Car) :
    AlikeAhead count one (two.receive car) := by
  obtain ⟨hfront, hle⟩ := take_receive h.le_second car
  exact ⟨h.course, h.speed, h.signal, hfront.trans h.front, h.le_first, hle⟩

/-- The same car enters both roads. -/
theorem receive (h : AlikeAhead count one two) (car : Car) :
    AlikeAhead count (one.receive car) (two.receive car) := by
  obtain ⟨hfront, hle⟩ := take_receive h.le_first car
  obtain ⟨hfront', hle'⟩ := take_receive h.le_second car
  exact ⟨h.course, h.speed, h.signal, hfront'.trans (h.front.trans hfront.symm), hle, hle'⟩

theorem keptAhead_eq (h : AlikeAhead count one two) (d : Float32) :
    two.keptAhead d count = one.keptAhead d count := by
  rw [Road.keptAhead_eq, Road.keptAhead_eq, h.front, part_congr h.course h.speed h.signal]

/-- **One tick.**  The roads are alike in the cars that are left, and the same cars depart. -/
theorem advance (h : AlikeAhead count one two) (d : Float32) :
    AlikeAhead (one.keptAhead d count) (one.advance d).1 (two.advance d).1 ∧
      (two.advance d).2.take (count - one.keptAhead d count) =
        (one.advance d).2.take (count - one.keptAhead d count) := by
  obtain ⟨hkept, hdeparted, hle⟩ := advance_front (d := d) h.le_first
  obtain ⟨hkept', hdeparted', hle'⟩ := advance_front (d := d) h.le_second
  rw [h.front, part_congr h.course h.speed h.signal, h.keptAhead_eq] at hkept' hdeparted'
  rw [h.keptAhead_eq] at hle'
  exact ⟨⟨h.course, h.speed, h.signal, hkept'.trans hkept.symm, hle, hle'⟩,
    hdeparted'.trans hdeparted.symm⟩

/-- **Two whole histories.** -/
theorem watch_eq (h : AlikeAhead count one two) {first second : List RoadAction}
    (hcrowding : Crowding first second) : two.watch count second = one.watch count first := by
  induction hcrowding generalizing one two count with
  | done => exact congrArg (Sight.mk · []) h.front
  | both action _ ih =>
      cases action with
      | receive car => exact ih (h.receive car)
      | advance d =>
          obtain ⟨halike, hdeparted⟩ := h.advance d
          simp only [watch, h.keptAhead_eq, ih halike, hdeparted]
      | setSignal signal =>
          exact ih ⟨h.course, h.speed, rfl, h.front, h.le_first, h.le_second⟩
      | setSpeed speed =>
          exact ih ⟨h.course, rfl, h.signal, h.front, h.le_first, h.le_second⟩
  | more car _ ih => exact ih (h.more car)

end AlikeAhead

/-- No watched car is lost sight of. -/
theorem watch_perm (hcount : count ≤ road.cars.length) (history : List RoadAction) :
    ((road.watch count history).departed.flatten.map Car.tag ++
      (road.watch count history).standing.map Car.tag).Perm
        ((road.cars.take count).map Car.tag) := by
  induction history generalizing road count with
  | nil => exact List.Perm.refl _
  | cons action later ih =>
      cases action with
      | receive car =>
          obtain ⟨hfront, hle⟩ := AlikeAhead.take_receive hcount car
          rw [← hfront]
          exact ih hle
      | advance d =>
          obtain ⟨hkept, hdeparted, hle⟩ := advance_front (d := d) hcount
          have hlater := ih hle
          have hnow := road.part_perm d d (road.cars.take count)
          rw [hkept] at hlater
          simp only [watch, List.flatten_cons, List.map_append, List.append_assoc]
          rw [hdeparted]
          exact (hlater.append_left _).trans (List.perm_append_comm.trans hnow)
      | setSignal signal => exact @ih (road.setSignal signal) count hcount
      | setSpeed speed => exact @ih { road with speed } count hcount

/-- **No car is affected by cars behind it.**  After any history of any road, let two histories
go on, the second of which receives more cars.  The cars that stand on the road by then are
seen alike at every point of the first history and at one of the second at which as much has
been done of it. -/
theorem watch_eq_of_crowding {first second : List RoadAction} (h : Crowding first second)
    (road : Road) (before : List RoadAction) :
    let here := (road.run before).1
    let sight := here.watch here.cars.length
    ∀ done later, first = done ++ later → ∃ done' later', second = done' ++ later' ∧
      Crowding done done' ∧ Crowding later later' ∧ sight done' = sight done ∧
        ((sight done).departed.flatten.map Car.tag ++ (sight done).standing.map Car.tag).Perm
          (here.cars.map Car.tag) := by
  intro here sight done later hsplit
  obtain ⟨done', later', hsecond, hdone, hlater⟩ := h.split hsplit
  refine ⟨done', later', hsecond, hdone, hlater, (AlikeAhead.refl here).watch_eq hdone, ?_⟩
  have hperm := here.watch_perm (Nat.le_refl _) done
  rw [List.take_length] at hperm
  exact hperm

/-- A fast straight with two cars on it, the second of which has just entered. -/
def busy : Road :=
  { id := ⟨0⟩, course := .straight ⟨⟨0, 0⟩, ⟨100, 0⟩⟩, speed := 30,
    cars := [{ Car.new ⟨7⟩ 4 with progress := 60 }] }

/-- The signal and the speed change, and of the following distances one is not a number and one
is below zero. -/
def calm : List RoadAction :=
  [.advance Binary32.nan, .setSignal .stop, .advance (-9), .setSignal .proceed, .setSpeed 20,
    .advance 2, .advance 2, .advance 2]

/-- The same, with cars that enter behind, one of them by the identity of the first. -/
def crowded : List RoadAction :=
  [.receive (.new ⟨9⟩ 4), .advance Binary32.nan, .setSignal .stop, .receive (.new ⟨7⟩ 4),
    .receive (.new ⟨6⟩ 1), .advance (-9), .setSignal .proceed, .setSpeed 20, .advance 2, .advance 2,
    .receive (.new ⟨5⟩ 3), .advance 2]

/-- The two cars depart in the third and in the fifth tick of both histories. -/
theorem watch_eq_of_crowding_busy :
    let here := (busy.run [.receive (.new ⟨8⟩ 5)]).1
    Crowding calm crowded ∧
      (here.watch here.cars.length calm).departed.map (·.map Car.id) =
        [[], [], [⟨7⟩], [], [⟨8⟩]] ∧
      ∃ done' later', crowded = done' ++ later' ∧ Crowding calm done' ∧ Crowding [] later' ∧
        here.watch here.cars.length done' = here.watch here.cars.length calm ∧
        ((here.watch here.cars.length calm).departed.flatten.map Car.tag ++
          (here.watch here.cars.length calm).standing.map Car.tag).Perm
            (here.cars.map Car.tag) := by
  intro here
  have hcrowding : Crowding calm crowded :=
    .more _ <| .both _ <| .both _ <| .more _ <| .more _ <| .both _ <| .both _ <| .both _ <|
      .both _ <| .both _ <| .more _ <| .both _ .done
  exact ⟨hcrowding, by decide +kernel,
    watch_eq_of_crowding hcrowding busy _ calm [] (List.append_nil _).symm⟩

end Road

end RoadTraffic
