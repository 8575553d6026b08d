import RoadTraffic.Proofs.World.Counters

/-!
# Roads that show stop

A straight road that shows stop lets no car leave, whatever the following distance
is: a car that does not move stays.  Over a stretch of a run in which the road
shows stop at every tick it therefore only gains cars,

    queue after  =  queue before, and the cars received in the meantime,

and nothing that is counted as handed on or discarded is from it
(`held_run`).  What happens between the ticks is free: cars may be spawned, the
settings may be changed to anything, and signals may be worked, also that of the
road, as long as it shows stop again when the tick comes.
-/

namespace RoadTraffic

namespace Road

variable {road : Road}

theorem not_opens_of_stop (hstraight : road.isStraight = true) (hstop : road.signal = .stop) :
    ¬ road.Opens := by
  obtain ⟨line, hcourse⟩ := exists_line_of_isStraight hstraight
  rw [Opens, hcourse, hstop]
  exact Bool.false_ne_true

/-- A tick on a road that is not open. -/
theorem advance_of_not_opens (h : ¬ road.Opens) (d : Float32) :
    (road.advance d).2 = [] ∧ (road.advance d).1.cars.map Car.id = road.cars.map Car.id := by
  obtain ⟨hdeparted, hkept⟩ := part_of_not_opens (d := d) (r := d) h road.cars
  have hids := congrArg (List.map Prod.fst) hkept
  rw [List.map_map, List.map_map] at hids
  rw [← partQueue_eq_part] at hdeparted hids
  exact ⟨hdeparted, hids⟩

end Road

namespace World

/-- Does the road show stop at every tick of the run? -/
def StopsAt (world : World) (id : RoadId) : List Command → Prop
  | [] => True
  | command :: commands =>
    (command = .tick → (world.network.road? id).map Road.signal = some .stop) ∧
      (world.obey command).world.StopsAt id commands

instance decidableStopsAt (id : RoadId) : (world : World) → (commands : List Command) →
    Decidable (world.StopsAt id commands)
  | _, [] => isTrue trivial
  | world, command :: commands =>
    have := decidableStopsAt id (world.obey command).world commands
    inferInstanceAs (Decidable
      ((command = .tick → (world.network.road? id).map Road.signal = some .stop) ∧
        (world.obey command).world.StopsAt id commands))

variable {world : World} {id : RoadId} {road : Road}

/-- One command, if the road shows stop when it is a tick. -/
theorem held_obey (h : world.network.Regular) (hroad : world.network.road? id = some road)
    (hstraight : road.isStraight = true) {command : Command}
    (hstop : command = .tick → (world.network.road? id).map Road.signal = some .stop) :
    world.leaving id command = [] ∧
      (world.obey command).world.network.queue id =
        world.network.queue id ++ world.entering id command ∧
      ∃ next, (world.obey command).world.network.road? id = some next ∧
        next.isStraight = true := by
  obtain ⟨next, entered, hnext, hbare, hcars, hentered, -⟩ := exists_road?_obey h hroad command
  have hcourse : next.isStraight = true := by
    rw [Road.isStraight, (Road.eq_of_bare_eq hbare).2.1]
    exact hstraight
  rw [queue_eq_of_road? hnext, queue_eq_of_road? hroad, hcars, List.map_append, hentered]
  by_cases htick : command = .tick
  · have hsignal : road.signal = .stop := by
      have hshown := hstop htick
      rw [hroad] at hshown
      exact Option.some.inj hshown
    obtain ⟨hleft, hstay⟩ := Road.advance_of_not_opens
      (Road.not_opens_of_stop hstraight hsignal) world.config.followingDistance
    subst htick
    rw [leaving_tick hroad, hleft, staying, hstay]
    exact ⟨rfl, rfl, next, hnext, hcourse⟩
  · rw [staying_of_ne_tick htick]
    exact ⟨leaving_of_ne_tick htick, rfl, next, hnext, hcourse⟩

/-- A stretch of a run, seen from a road that no car leaves. -/
structure Held (world : World) (id : RoadId) (commands : List Command) : Prop where
  /-- In none of the ticks a car leaves the road. -/
  leaving : ∀ before after, commands = before ++ .tick :: after →
    (world.run before).leaving id .tick = []
  /-- The cars keep their places, and those received stand behind them, in the order of
  reception. -/
  queue : (world.run commands).network.queue id =
    world.network.queue id ++ world.received id commands
  /-- The hand-offs counted are departures from roads that others follow. -/
  handOffs : (world.run commands).stats.handOffs = world.stats.handOffs +
    (world.departed commands).countP fun departure =>
      !(world.network.successors departure.1).isEmpty
  /-- The discards counted are departures from dead ends. -/
  carsDiscarded : (world.run commands).stats.carsDiscarded = world.stats.carsDiscarded +
    (world.departed commands).countP fun departure =>
      (world.network.successors departure.1).isEmpty
  /-- All of these departures are from other roads. -/
  elsewhere : ∀ departure ∈ world.departed commands, departure.1 ≠ id

theorem held_of_stopsAt (h : world.network.Regular) (hroad : world.network.road? id = some road)
    (hstraight : road.isStraight = true) {commands : List Command}
    (hstops : world.StopsAt id commands) : Held world id commands := by
  have hstats := stats_run h commands
  suffices hrest : (∀ before after, commands = before ++ .tick :: after →
      (world.run before).leaving id .tick = []) ∧
      (world.run commands).network.queue id =
        world.network.queue id ++ world.received id commands ∧
      ∀ departure ∈ world.departed commands, departure.1 ≠ id from
    ⟨hrest.1, hrest.2.1, congrArg Stats.handOffs hstats, congrArg Stats.carsDiscarded hstats,
      hrest.2.2⟩
  clear hstats
  induction commands generalizing world road with
  | nil =>
      refine ⟨fun before after hsplit => ?_, (List.append_nil _).symm, List.forall_mem_nil _⟩
      exact absurd hsplit (by simp)
  | cons command commands ih =>
      obtain ⟨hstop, hlater⟩ := hstops
      obtain ⟨hnone, hqueue, next, hnext, hcourse⟩ := held_obey h hroad hstraight hstop
      obtain ⟨hleaving, hqueues, helsewhere⟩ :=
        ih (h.of_frame_eq (world.frame_obey command)) hnext hcourse hlater
      refine ⟨fun before after hsplit => ?_, ?_, ?_⟩
      · cases before with
        | nil =>
            obtain ⟨rfl, -⟩ := List.cons.inj hsplit
            exact hnone
        | cons first before =>
            obtain ⟨rfl, hrest⟩ := List.cons.inj hsplit
            exact hleaving before after hrest
      · rw [run_cons, hqueues, hqueue, received, List.append_assoc]
      · refine List.forall_mem_append.mpr ⟨?_, helsewhere⟩
        intro departure hdeparture heq
        have hleft := leaving_of_mem_departing h hdeparture
        rw [heq, hnone] at hleft
        cases hleft

/-- **Stop holds.**  As long as a straight road shows stop at every tick, no car leaves
it, whatever else is done to the world and whatever following distance is set. -/
theorem held_run (h : world.Reachable) (hroad : world.network.road? id = some road)
    (hstraight : road.isStraight = true) {commands : List Command}
    (hstops : world.StopsAt id commands) : Held world id commands :=
  held_of_stopsAt h.regular hroad hstraight hstops

/-- A car has come to the end of the straight before the fork when it shows stop; another
comes back to it over the arc. -/
def beforeFork : World :=
  fork.run [.spawn 20 ⟨0⟩, .tick, .tick, .setSignal ⟨0⟩ .stop, .spawn 20 ⟨1⟩]

/-- The following distance is first not a number and then below zero. -/
def waiting : List Command :=
  [.configure { followingDistance := Binary32.nan }, .tick, .tick, .spawnWave, .tick,
    .configure { followingDistance := -100 }, .setSignal ⟨1⟩ .stop, .tick]

/-- All three cars wait before the fork. -/
theorem held_run_fork :
    beforeFork.StopsAt ⟨0⟩ waiting ∧ beforeFork.received ⟨0⟩ waiting = [⟨2⟩, ⟨1⟩] ∧
      Held beforeFork ⟨0⟩ waiting := by
  have hreachable : beforeFork.Reachable := ⟨fork, _, fresh_fork, rfl⟩
  have hstops : beforeFork.StopsAt ⟨0⟩ waiting := by decide +kernel
  have hstraight : (beforeFork.network.road? ⟨0⟩).map Road.isStraight = some true := by
    decide +kernel
  obtain ⟨road, hroad, hstraight⟩ := Option.map_eq_some_iff.mp hstraight
  exact ⟨hstops, by decide +kernel, held_run hreachable hroad hstraight hstops⟩

end World

end RoadTraffic
