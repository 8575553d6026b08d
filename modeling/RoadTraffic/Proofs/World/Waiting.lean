import RoadTraffic.Proofs.Road.Waiting
import RoadTraffic.Proofs.World.Resting

/-!
# Cars that wait at a stop keep waiting

Over a stretch of a run in which a straight shows stop at every tick, with one following
distance, no car leaves it, and those that are spawned on it or handed onto it stand behind the
others.  The room to be reserved is summed up anew in every tick, but ahead of one place of the
queue it is always the same, and so is the mark of the car there.

So each car, from any point of the stretch on, takes a stride in each of some first ticks and in
no tick after these (`Waits`, `exists_waits`), whatever else is done to the world.

A tick moves a car if it makes the car take a stride.  A stride may be so short that it is lost
to rounding, and then the car stands still although the tick moves it; but also a car that only
stands still does so for good.
-/

namespace RoadTraffic

namespace World

/-- The car at a place of the queue of a road. -/
def carAt (world : World) (id : RoadId) (place : Nat) : Option Car :=
  (world.network.road? id).bind (·.cars[place]?)

/-- The room reserved ahead of a place of the queue of a road. -/
def roomAt (world : World) (id : RoadId) (d : Float32) (place : Nat) : Option Float32 :=
  (world.network.road? id).map (·.room d place)

variable {world : World} {id : RoadId} {road : Road} {line : Straight} {d : Float32}
  {place : Nat} {car : Car} {commands first second : List Command}

theorem stopsAt_append : world.StopsAt id (first ++ second) ↔
    world.StopsAt id first ∧ (world.run first).StopsAt id second := by
  induction first generalizing world with
  | nil => exact ⟨fun hlater => ⟨trivial, hlater⟩, And.right⟩
  | cons command first ih => rw [List.cons_append, StopsAt, StopsAt, ih, run_cons, and_assoc]

theorem keepsDistance_append : world.KeepsDistance d (first ++ second) ↔
    world.KeepsDistance d first ∧ (world.run first).KeepsDistance d second := by
  induction first generalizing world with
  | nil => exact ⟨fun hlater => ⟨trivial, hlater⟩, And.right⟩
  | cons command first ih =>
      rw [List.cons_append, KeepsDistance, KeepsDistance, ih, run_cons, and_assoc]

/-!
## One place of the queue
-/

/-- One command, if the road shows stop when it is a tick. -/
theorem place_obey (h : world.network.Regular) (hroad : world.network.road? id = some road)
    (hcourse : road.course = .straight line) {command : Command}
    (hstop : command = .tick → (world.network.road? id).map Road.signal = some .stop)
    (hkeeps : command = .tick → world.config.followingDistance = d)
    (hcar : road.cars[place]? = some car) :
    ∃ next, (world.obey command).world.network.road? id = some next ∧ next.bare = road.bare ∧
      next.room d place = road.room d place ∧
      next.cars[place]? = some
        ((road.approach (line.length - road.room d place))^[[command].count .tick] car) := by
  obtain ⟨next, entered, hnext, hbare, hcars, -, -⟩ := exists_road?_obey h hroad command
  have hstays : (world.staying road command)[place]? = some
        ((road.approach (line.length - road.room d place))^[[command].count .tick] car) ∧
      Road.roomAhead d ((world.staying road command).take place) = road.room d place := by
    by_cases htick : command = .tick
    · subst htick
      rw [hroad, Option.map_some] at hstop
      have hsignal := Option.some.inj (hstop rfl)
      have hclosed := Road.not_opens_of_stop (Road.isStraight_of_straight hcourse) hsignal
      rw [staying, hkeeps rfl, List.count_singleton_self, Function.iterate_one]
      exact Road.advance_of_closed hcourse hclosed hcar
    · rw [staying_of_ne_tick htick, List.count_singleton, beq_false_of_ne htick]
      exact ⟨hcar, rfl⟩
  obtain ⟨hstands, hroom⟩ := hstays
  -- Those that enter stand behind.
  obtain ⟨hplace, -⟩ := List.getElem?_eq_some_iff.mp hstands
  refine ⟨next, hnext, hbare, ?_, ?_⟩
  · rw [Road.room, hcars, List.take_append_of_le_length (Nat.le_of_lt hplace), hroom]
  · rw [hcars, List.getElem?_append_left hplace, hstands]

theorem place_run (h : world.network.Regular) (hroad : world.network.road? id = some road)
    (hcourse : road.course = .straight line) (hstops : world.StopsAt id commands)
    (hkeeps : world.KeepsDistance d commands) (hcar : road.cars[place]? = some car) :
    ∃ next, (world.run commands).network.road? id = some next ∧ next.bare = road.bare ∧
      next.room d place = road.room d place ∧
      next.cars[place]? = some
        ((road.approach (line.length - road.room d place))^[commands.count .tick] car) := by
  induction commands generalizing world road car with
  | nil => exact ⟨road, hroad, rfl, rfl, hcar⟩
  | cons command commands ih =>
      obtain ⟨hstop, hstopsLater⟩ := hstops
      obtain ⟨hkeep, hkeepsLater⟩ := hkeeps
      obtain ⟨next, hnext, hbare, hroom, hstands⟩ :=
        place_obey h hroad hcourse hstop hkeep hcar
      obtain ⟨-, hsame, hspeed, -⟩ := Road.eq_of_bare_eq hbare
      obtain ⟨final, hfinal, hfinalBare, hfinalRoom, hfinally⟩ :=
        ih (h.of_frame_eq (world.frame_obey command)) hnext (hsame.trans hcourse) hstopsLater
          hkeepsLater hstands
      refine ⟨final, hfinal, hfinalBare.trans hbare, hfinalRoom.trans hroom, ?_⟩
      have hcount : (command :: commands).count .tick =
          commands.count .tick + [command].count .tick := by
        rw [← List.singleton_append, List.count_append, Nat.add_comm]
      rw [hfinally, hroom, Road.approach_congr hsame hspeed, hcount, Function.iterate_add_apply]

/-!
## A stretch of a run
-/

/-- How a car fares in a stretch of a run, of whose ticks the first `k` move it.  At the start of
the stretch it stands on the road, at that place of the queue. -/
structure Waits (world : World) (id : RoadId) (road : Road) (line : Straight) (d : Float32)
    (place : Nat) (car : Car) (commands : List Command) (k : Nat) : Prop where
  /-- The room reserved ahead of the car is the same throughout. -/
  room : ∀ done later, commands = done ++ later →
    (world.run done).roomAt id d place = some (road.room d place)
  /-- The car keeps its place, and takes a stride in each of the first ticks and in no other. -/
  strides : ∀ done later, commands = done ++ later →
    (world.run done).carAt id place = some (road.strode^[min (done.count .tick) k] car)
  /-- A tick moves it just if it finds it below its mark. -/
  moves : ∀ done later now, commands = done ++ .tick :: later →
    (world.run done).carAt id place = some now →
    (done.count .tick < k ↔ now.progress < line.length - road.room d place)
  /-- When it does not move it stands where it stood at the start, or where a stride has led to
  that began below its mark. -/
  rests : ∀ done later now, commands = done ++ .tick :: later →
    (world.run done).carAt id place = some now → k ≤ done.count .tick →
    ¬ now.progress < line.length - road.room d place ∧
      (now.progress = car.progress ∨ ∃ q, q < line.length - road.room d place ∧
        now.progress = Scalar.lesser (q + road.speed) line.length)
  /-- A tick that leaves it as it is, in progress and pose, is followed by no other that
  does not. -/
  still : ∀ done later rest, commands = done ++ .tick :: later ++ rest →
    (world.run (done ++ [.tick])).carAt id place = (world.run done).carAt id place →
    (world.run (done ++ .tick :: later)).carAt id place = (world.run done).carAt id place

/-- What is seen at the place at some point of the stretch. -/
theorem seen_run (h : world.network.Regular) (hroad : world.network.road? id = some road)
    (hcourse : road.course = .straight line) (hstops : world.StopsAt id (first ++ second))
    (hkeeps : world.KeepsDistance d (first ++ second)) (hcar : road.cars[place]? = some car) :
    (world.run first).roomAt id d place = some (road.room d place) ∧
      (world.run first).carAt id place = some
        ((road.approach (line.length - road.room d place))^[first.count .tick] car) := by
  obtain ⟨next, hnext, -, hroom, hnow⟩ := place_run h hroad hcourse
    (stopsAt_append.mp hstops).1 (keepsDistance_append.mp hkeeps).1 hcar
  rw [roomAt, carAt, hnext]
  exact ⟨congrArg some hroom, hnow⟩

theorem waits_of_settles (h : world.network.Regular)
    (hroad : world.network.road? id = some road) (hcourse : road.course = .straight line)
    (hstops : world.StopsAt id commands) (hkeeps : world.KeepsDistance d commands)
    (hcar : road.cars[place]? = some car) {k : Nat}
    (hsettles : road.Settles (line.length - road.room d place) car (commands.count .tick) k) :
    Waits world id road line d place car commands k := by
  have hseen : ∀ {done later}, commands = done ++ later →
      (world.run done).roomAt id d place = some (road.room d place) ∧
        (world.run done).carAt id place = some
          ((road.approach (line.length - road.room d place))^[done.count .tick] car) := by
    rintro done later rfl
    exact seen_run h hroad hcourse hstops hkeeps hcar
  have hstrides : ∀ done later, commands = done ++ later →
      (world.run done).carAt id place = some (road.strode^[min (done.count .tick) k] car) := by
    intro done later hsplit
    have hle : done.count .tick ≤ commands.count .tick := by
      rw [hsplit, List.count_append]
      exact Nat.le_add_right _ _
    rw [(hseen hsplit).2, hsettles.approach_iterate hle]
  have hmoves : ∀ done later now, commands = done ++ .tick :: later →
      (world.run done).carAt id place = some now →
      (done.count .tick < k ↔ now.progress < line.length - road.room d place) := by
    intro done later now hsplit hnow
    have hlt : done.count .tick < commands.count .tick := by
      rw [hsplit, List.count_append, List.count_cons_self]
      omega
    obtain rfl := Option.some.inj ((hstrides _ _ hsplit).symm.trans hnow)
    exact (hsettles.moves_iff hlt).symm
  refine {
    room := fun done later hsplit => (hseen hsplit).1
    strides := hstrides
    moves := hmoves
    rests := ?_
    still := ?_ }
  · intro done later now hsplit hnow hrests
    have hpast : ¬ now.progress < line.length - road.room d place :=
      fun hbelow => Nat.not_lt.mpr hrests ((hmoves _ _ _ hsplit hnow).mpr hbelow)
    have hstands := hstrides _ _ hsplit
    rw [Nat.min_eq_right hrests] at hstands
    obtain rfl := Option.some.inj (hstands.symm.trans hnow)
    exact ⟨hpast, hsettles.progress_eq hcourse⟩
  · intro done later rest hsplit hunmoved
    have hfinal : commands = (done ++ .tick :: later) ++ rest := hsplit
    have hbefore : commands = done ++ (.tick :: later ++ rest) := by
      rw [hsplit, List.append_assoc]
    have hafter : commands = (done ++ [.tick]) ++ (later ++ rest) := by
      rw [hsplit]
      simp only [List.append_assoc, List.cons_append, List.nil_append]
    rw [(hseen hafter).2, (hseen hbefore).2, List.count_append,
      List.count_singleton_self] at hunmoved
    rw [(hseen hfinal).2, (hseen hbefore).2, List.count_append]
    exact congrArg some (Road.approach_iterate_eq (Nat.le_add_right _ _)
      (Option.some.inj hunmoved))

/-- **A car that waits at a stop keeps waiting.**  Let a straight show stop at every tick of a
stretch, with one following distance.  A car that stands on it at any point of the stretch, since
the start or since it was received, is moved by the first ticks to come, and by no other. -/
theorem exists_waits (h : world.Reachable) (hroad : world.network.road? id = some road)
    (hcourse : road.course = .straight line) (hstops : world.StopsAt id commands)
    (hkeeps : world.KeepsDistance d commands) {before since : List Command}
    (hsplit : commands = before ++ since)
    (hcar : (world.run before).carAt id place = some car) :
    ∃ now k, (world.run before).network.road? id = some now ∧ now.bare = road.bare ∧
      Waits (world.run before) id now line d place car since k := by
  subst hsplit
  obtain ⟨now, hnow, hstands⟩ := Option.bind_eq_some_iff.mp hcar
  obtain ⟨was, hwas, hbare⟩ :=
    Network.exists_road?_of_frame_eq (world.frame_run before).symm hnow
  obtain rfl := Option.some.inj (hwas.symm.trans hroad)
  have hsame := (Road.eq_of_bare_eq hbare).2.1
  obtain ⟨k, hsettles⟩ :=
    now.exists_settles (line.length - now.room d place) car (since.count .tick)
  exact ⟨now, k, hnow, hbare.symm, waits_of_settles (h.run before).regular hnow
    (hsame.symm.trans hcourse) (stopsAt_append.mp hstops).2 (keepsDistance_append.mp hkeeps).2
    hstands hsettles⟩

/-- A car is spawned behind the one that waits before the fork, and another comes up behind both
over the arc. -/
def queueing : List Command := [.tick, .tick, .spawnWave, .tick, .tick, .tick, .tick, .tick]

/-- The car that is spawned takes a single stride, past its mark of 40. -/
theorem exists_waits_fork :
    beforeFork.StopsAt ⟨0⟩ queueing ∧ beforeFork.KeepsDistance 20 queueing ∧
      ((beforeFork.run queueing).network.road? ⟨0⟩).map
        (·.cars.map fun car => (car.id, car.progress)) =
          some [(⟨0⟩, 100), (⟨2⟩, 50), (⟨1⟩, 0)] ∧
      ∃ car now k, (beforeFork.run (queueing.take 3)).carAt ⟨0⟩ 1 = some car ∧
        car.id = ⟨2⟩ ∧ Waits (beforeFork.run (queueing.take 3)) ⟨0⟩ now ⟨⟨0, 0⟩, ⟨100, 0⟩⟩ 20 1 car
          (queueing.drop 3) k := by
  have hreachable : beforeFork.Reachable := ⟨fork, _, fresh_fork, rfl⟩
  have hcourse : (beforeFork.network.road? ⟨0⟩).map Road.course =
      some (.straight ⟨⟨0, 0⟩, ⟨100, 0⟩⟩) := by decide +kernel
  have hspawned : ((beforeFork.run (queueing.take 3)).carAt ⟨0⟩ 1).map Car.id = some ⟨2⟩ := by
    decide +kernel
  have hstops : beforeFork.StopsAt ⟨0⟩ queueing := by decide +kernel
  have hkeeps : beforeFork.KeepsDistance 20 queueing := by decide +kernel
  obtain ⟨road, hroad, hcourse⟩ := Option.map_eq_some_iff.mp hcourse
  obtain ⟨car, hcar, hid⟩ := Option.map_eq_some_iff.mp hspawned
  obtain ⟨now, k, -, -, hwaits⟩ := exists_waits hreachable hroad hcourse hstops hkeeps
    (List.take_append_drop 3 queueing).symm hcar
  exact ⟨hstops, hkeeps, by decide +kernel, car, now, k, hcar, hid, hwaits⟩

end World

end RoadTraffic
