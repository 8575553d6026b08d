import RoadTraffic.Proofs.World.Conservation

/-!
# An account of every car

In a run from a fresh world no car stands before the first command.  So what is
conserved reads

    cars standing, and cars that left  =  cars spawned,

and the spawned cars are numbered from zero without a gap.  All else follows from
there: no identity stands twice, the counters agree with the queues, an identity
that was given and does not stand has left, and a car that stands has the length it
was spawned with.

Which cars leave is said by the queues, not by what is told of it: a car is
discarded when it departs from a road that no road follows (`Discards`).
-/

namespace RoadTraffic

/-!
## Finding a car
-/

namespace Network

variable {network : Network} {id : CarId} {road : Road} {car : Car}

theorem findCar?_eq_some (h : network.findCar? id = some (road, car)) :
    road ∈ network.roads ∧ car ∈ road.cars ∧ car.id = id := by
  obtain ⟨standing, hroad, hfound⟩ := List.exists_of_findSome?_eq_some h
  obtain ⟨found, hfind, heq⟩ := Option.map_eq_some_iff.mp hfound
  obtain ⟨rfl, rfl⟩ := Prod.mk.inj heq
  exact ⟨hroad, List.mem_of_find?_eq_some hfind, by simpa using List.find?_some hfind⟩

/-- Where identities are distinct a car is found by its own. -/
theorem findCar?_of_mem (hdistinct : (network.cars.map Car.id).Nodup)
    (hroad : road ∈ network.roads) (hcar : car ∈ road.cars) :
    network.findCar? car.id = some (road, car) := by
  unfold findCar?
  unfold cars at hdistinct
  generalize network.roads = roads at hdistinct hroad
  induction roads with
  | nil => exact nomatch hroad
  | cons first roads ih =>
      rw [List.flatMap_cons, List.map_append] at hdistinct
      obtain ⟨hfirst, hothers, hdisjoint⟩ := List.nodup_append'.mp hdistinct
      rw [List.findSome?_cons]
      rcases List.mem_cons.mp hroad with rfl | hroad
      · cases hfind : road.cars.find? (·.id = car.id) with
        | none => exact absurd (decide_eq_true rfl) (List.find?_eq_none.mp hfind car hcar)
        | some found =>
            have hid : found.id = car.id := by simpa using List.find?_some hfind
            have hmem := List.mem_of_find?_eq_some hfind
            rw [List.inj_on_of_nodup_map hfirst hmem hcar hid]
            rfl
      · have hcars : car ∈ roads.flatMap Road.cars := List.mem_flatMap.mpr ⟨road, hroad, hcar⟩
        have hnone : first.cars.find? (·.id = car.id) = none := by
          refine List.find?_eq_none.mpr fun other hother heq => ?_
          have hid : other.id = car.id := of_decide_eq_true heq
          exact hdisjoint (List.mem_map.mpr ⟨other, hother, hid⟩) (List.mem_map_of_mem hcars)
        rw [hnone]
        exact ih hothers hroad

theorem findCar?_eq_some_iff (hdistinct : (network.cars.map Car.id).Nodup) :
    network.findCar? id = some (road, car) ↔
      road ∈ network.roads ∧ car ∈ road.cars ∧ car.id = id := by
  refine ⟨findCar?_eq_some, fun hstands => ?_⟩
  obtain ⟨hroad, hcar, rfl⟩ := hstands
  exact findCar?_of_mem hdistinct hroad hcar

theorem findCar?_eq_none_iff : network.findCar? id = none ↔ id ∉ network.cars.map Car.id := by
  simp only [findCar?, cars, List.findSome?_eq_none_iff, Option.map_eq_none_iff,
    List.find?_eq_none, decide_eq_true_eq, List.mem_map, List.mem_flatMap]
  constructor
  · intro hnone hstands
    obtain ⟨car, ⟨road, hroad, hcar⟩, hid⟩ := hstands
    exact hnone road hroad car hcar hid
  · intro hnot road hroad car hcar hid
    exact hnot ⟨car, ⟨road, hroad, hcar⟩, hid⟩

end Network

/-- The cars that are discarded are those that depart from a dead end. -/
theorem Routed.discarded_eq {next : RoadId → List RoadId} {draws final : Draws}
    {departures deliveries discarded : List (RoadId × Car)}
    (h : Routed next draws departures deliveries discarded final) :
    discarded = departures.filter fun departure => (next departure.1).isEmpty := by
  induction h with
  | done => rfl
  | discarded hdeadEnd _ ih =>
      rw [List.filter_cons, if_pos (List.isEmpty_iff.mpr hdeadEnd), ← ih]
  | delivered _ hmem _ ih =>
      rw [List.filter_cons, if_neg (mt List.isEmpty_iff.mp (List.ne_nil_of_mem hmem)), ih]

namespace World

/-!
## What is told
-/

/-- In the next tick the car departs from the road, and no road follows it. -/
def Discards (world : World) (car : CarId) (road : RoadId) : Prop :=
  world.network.successors road = [] ∧
    ∃ departed, (road, departed) ∈ world.departures ∧ departed.id = car

/-- The length of the cars that a command is to create. -/
def spawnLength? (world : World) : Command → Option Float32
  | .spawn length _ => some length
  | .spawnWave => some world.config.defaultCarLength
  | _ => none

variable {world : World} {event : Event}

/-- A tick tells of the cars that it discards, and of nothing else. -/
theorem mem_tick_iff (h : world.network.Regular) : event ∈ world.tick.2 ↔
    ∃ car road, event = .carLeft car road ∧ world.Discards car road := by
  obtain ⟨deliveries, discarded, final, hrouted, htick⟩ := world.tick_eq h
  rw [htick, hrouted.discarded_eq]
  constructor
  · intro hmem
    obtain ⟨⟨road, departed⟩, hdeparture, rfl⟩ := List.mem_map.mp hmem
    obtain ⟨hdeparts, hend⟩ := List.mem_filter.mp hdeparture
    exact ⟨departed.id, road, rfl, List.isEmpty_iff.mp hend, departed, hdeparts, rfl⟩
  · intro hdiscards
    obtain ⟨car, road, rfl, hend, departed, hdeparts, rfl⟩ := hdiscards
    refine List.mem_map.mpr ⟨(road, departed), List.mem_filter.mpr ⟨hdeparts, ?_⟩, rfl⟩
    exact List.isEmpty_iff.mpr hend

theorem eq_carSpawned_of_mem_spawn {length : Float32} {road : RoadId}
    (h : event ∈ (world.spawn length road).events) :
    ∃ car, event = .carSpawned car length road := by
  unfold spawn at h
  split at h
  · exact nomatch h
  · exact ⟨_, List.mem_singleton.mp h⟩

theorem eq_carSpawned_of_mem_spawnEach {length : Float32} {roads : List RoadId}
    (h : event ∈ (world.spawnEach length roads).events) :
    ∃ car, ∃ road ∈ roads, event = .carSpawned car length road := by
  induction roads generalizing world with
  | nil => exact nomatch h
  | cons road roads ih =>
      have hfirst : event ∈ (world.spawn length road).events →
          ∃ car, ∃ entered ∈ road :: roads, event = .carSpawned car length entered := by
        intro hspawned
        obtain ⟨car, heq⟩ := eq_carSpawned_of_mem_spawn hspawned
        exact ⟨car, road, List.mem_cons_self, heq⟩
      simp only [spawnEach] at h
      split at h
      · exact hfirst h
      · rcases List.mem_append.mp h with hnow | hlater
        · exact hfirst hnow
        · obtain ⟨car, entered, hmem, heq⟩ := ih hlater
          exact ⟨car, entered, List.mem_cons_of_mem _ hmem, heq⟩

/-- Of a car is told only when it is created, with the length that was asked for, and
in a tick. -/
theorem mem_obey {command : Command} (h : event ∈ (world.obey command).events) :
    (∃ car length road, world.spawnLength? command = some length ∧
      event = .carSpawned car length road) ∨
    (command = .tick ∧ event ∈ world.tick.2) ∨
    ∃ stopped, event = .signalsToggled stopped := by
  cases command with
  | tick => exact Or.inr (Or.inl ⟨rfl, h⟩)
  | spawn length road =>
      obtain ⟨car, rfl⟩ := eq_carSpawned_of_mem_spawn h
      exact Or.inl ⟨car, length, road, rfl, rfl⟩
  | spawnWave =>
      obtain ⟨car, entered, -, rfl⟩ := eq_carSpawned_of_mem_spawnEach h
      exact Or.inl ⟨car, _, entered, rfl, rfl⟩
  | toggleSignals => exact Or.inr (Or.inr ⟨_, List.mem_singleton.mp h⟩)
  | setSignal road signal =>
      rw [obey, events_setSignal] at h
      exact nomatch h
  | configure config => exact nomatch h
  | network command =>
      cases command with
      | toggleSignals => exact nomatch h
      | setSignal road signal =>
          rw [obey, obeyNetwork, events_setSignal] at h
          exact nomatch h

theorem mem_history_iff (commands : List Command) : event ∈ world.history commands ↔
    ∃ before command after, commands = before ++ command :: after ∧
      event ∈ ((world.run before).obey command).events := by
  induction commands generalizing world with
  | nil =>
      refine ⟨nofun, fun hsome => ?_⟩
      obtain ⟨before, command, after, hsplit, -⟩ := hsome
      exact absurd hsplit (by simp)
  | cons command commands ih =>
      rw [history, List.mem_append, ih]
      constructor
      · intro hor
        rcases hor with hnow | ⟨before, later, after, rfl, hmem⟩
        · exact ⟨[], command, commands, rfl, hnow⟩
        · exact ⟨command :: before, later, after, rfl, hmem⟩
      · intro hsome
        obtain ⟨before, later, after, hsplit, hmem⟩ := hsome
        cases before with
        | nil =>
            obtain ⟨rfl, rfl⟩ := List.cons.inj hsplit
            exact Or.inl hmem
        | cons first before =>
            obtain ⟨rfl, rfl⟩ := List.cons.inj hsplit
            exact Or.inr ⟨before, later, after, rfl, hmem⟩

/-!
## The account
-/

/-- In some tick of the run the car is discarded. -/
def LeavesIn (start : World) (commands : List Command) (car : CarId) : Prop :=
  ∃ before after road, commands = before ++ .tick :: after ∧
    (start.run before).Discards car road

/-- Some command of the run creates the car, with that length.  A command numbers the
cars it creates from the counter it finds. -/
def SpawnsIn (start : World) (commands : List Command) (car : CarId) (length : Float32) : Prop :=
  ∃ before command after, commands = before ++ command :: after ∧
    (start.run before).spawnLength? command = some length ∧
    (start.run before).nextCar ≤ car.index ∧
    car.index < ((start.run before).obey command).world.nextCar

variable {start : World} {commands : List Command}

theorem mem_left_iff (h : start.network.Regular) {car : CarId} :
    car ∈ (start.history commands).filterMap Event.left? ↔ start.LeavesIn commands car := by
  rw [List.mem_filterMap]
  constructor
  · intro hsome
    obtain ⟨event, hmem, hleft⟩ := hsome
    obtain ⟨before, command, after, hsplit, hevent⟩ := (mem_history_iff commands).mp hmem
    rcases mem_obey hevent with ⟨_, _, _, -, rfl⟩ | ⟨rfl, htick⟩ | ⟨_, rfl⟩
    · exact nomatch hleft
    · have hregular := h.of_frame_eq (start.frame_run before)
      obtain ⟨left, road, rfl, hdiscards⟩ := (mem_tick_iff hregular).mp htick
      obtain rfl : left = car := Option.some.inj hleft
      exact ⟨before, after, road, hsplit, hdiscards⟩
    · exact nomatch hleft
  · intro hleaves
    obtain ⟨before, after, road, hsplit, hdiscards⟩ := hleaves
    have hregular := h.of_frame_eq (start.frame_run before)
    refine ⟨.carLeft car road, (mem_history_iff commands).mpr ?_, rfl⟩
    exact ⟨before, .tick, after, hsplit, (mem_tick_iff hregular).mpr ⟨car, road, rfl, hdiscards⟩⟩

theorem spawnsIn_of_mem (h : start.network.Regular) {car : CarId} {length : Float32}
    (hmem : (car, length) ∈ (start.history commands).filterMap Event.spawned?) :
    start.SpawnsIn commands car length := by
  obtain ⟨event, hevent, hspawned⟩ := List.mem_filterMap.mp hmem
  obtain ⟨before, command, after, hsplit, hnow⟩ := (mem_history_iff commands).mp hevent
  have hregular := h.of_frame_eq (start.frame_run before)
  have hconserves := (start.run before).conserves_obey hregular command
  have hnumber : car ∈ ((((start.run before).obey command).events).filterMap
      Event.spawned?).map Prod.fst :=
    List.mem_map.mpr ⟨(car, length), List.mem_filterMap.mpr ⟨event, hnow, hspawned⟩, rfl⟩
  rw [hconserves.ids] at hnumber
  obtain ⟨index, hindex, rfl⟩ := List.mem_map.mp hnumber
  rw [List.mem_range'_1, ← hconserves.nextCar] at hindex
  refine ⟨before, command, after, hsplit, ?_, hindex⟩
  rcases mem_obey hnow with ⟨_, asked, _, hasked, rfl⟩ | ⟨-, htick⟩ | ⟨_, rfl⟩
  · obtain ⟨-, rfl⟩ := Prod.mk.inj (Option.some.inj hspawned)
    exact hasked
  · obtain ⟨_, _, rfl, -⟩ := (mem_tick_iff hregular).mp htick
    exact nomatch hspawned
  · exact nomatch hspawned

/-- The identities of the cars that stand and of those that have left are the numbers up
to the counter, each of them once. -/
theorem Fresh.ids_perm (h : start.Fresh) (commands : List Command) :
    ((start.run commands).cars.map Car.id ++
        (start.history commands).filterMap Event.left?).Perm
      ((List.range (start.run commands).nextCar).map CarId.mk) := by
  obtain ⟨hregular, hempty, -, hnext⟩ := h.start
  have hconserves := conserves_run hregular commands
  obtain ⟨gone, hgone, hperm⟩ := hconserves.cars
  have hnone : start.cars = [] := List.flatMap_eq_nil_iff.mpr hempty
  have hmap := hperm.map Prod.fst
  rw [hnone, List.map_nil, List.nil_append, List.map_append, List.map_map, hgone,
    hconserves.ids] at hmap
  rw [hconserves.nextCar, hnext, Nat.zero_add, List.range_eq_range']
  rw [hnext] at hmap
  exact hmap

/-- No identity stands twice. -/
theorem Reachable.distinct {world : World} (h : world.Reachable) :
    (world.cars.map Car.id).Nodup := by
  obtain ⟨start, commands, hfresh, rfl⟩ := h
  have hrange : ((List.range (start.run commands).nextCar).map CarId.mk).Nodup :=
    List.nodup_range.map fun _ _ heq => CarId.mk.inj heq
  exact (List.nodup_append'.mp ((hfresh.ids_perm commands).nodup_iff.mpr hrange)).1

theorem Reachable.distinct_road {world : World} (h : world.Reachable) {id : RoadId} {road : Road}
    (hroad : world.network.road? id = some road) : (road.cars.map Car.id).Nodup := by
  have hsublist : road.cars.Sublist world.cars :=
    List.sublist_flatten_of_mem (List.mem_map_of_mem (Network.mem_roads_of_road? hroad))
  exact h.distinct.sublist (hsublist.map Car.id)

/-- The identities that stand were given before. -/
theorem Reachable.numbered {world : World} (h : world.Reachable) {id : CarId}
    (hid : id ∈ world.cars.map Car.id) : id.index < world.nextCar := by
  obtain ⟨start, commands, hfresh, rfl⟩ := h
  have hmem := (hfresh.ids_perm commands).subset (List.mem_append_left _ hid)
  obtain ⟨index, hindex, rfl⟩ := List.mem_map.mp hmem
  exact List.mem_range.mp hindex

theorem Fresh.counters (h : start.Fresh) (commands : List Command) :
    (start.run commands).stats.carsSpawned = (start.run commands).nextCar ∧
      (start.run commands).stats.carsDiscarded =
        ((start.history commands).filterMap Event.left?).length := by
  obtain ⟨hregular, -, hstats, hnext⟩ := h.start
  have hconserves := conserves_run hregular commands
  rw [hconserves.carsSpawned, hconserves.carsDiscarded, hconserves.nextCar, hstats, hnext]
  exact ⟨rfl, Nat.zero_add _⟩

theorem Fresh.carCount_add_carsDiscarded (h : start.Fresh) (commands : List Command) :
    (start.run commands).carCount + (start.run commands).stats.carsDiscarded =
      (start.run commands).stats.carsSpawned := by
  obtain ⟨hspawned, hdiscarded⟩ := h.counters commands
  have hlength := (h.ids_perm commands).length_eq
  rw [List.length_append, List.length_map, List.length_map, List.length_range] at hlength
  rw [hdiscarded, hspawned, ← hlength]
  exact congrArg (· + _) (Network.length_cars_eq_carCount _).symm

/-- A car that stands was created with the length it has. -/
theorem Fresh.spawnsIn (h : start.Fresh) {car : Car} (hcar : car ∈ (start.run commands).cars) :
    start.SpawnsIn commands car.id car.length := by
  obtain ⟨hregular, hempty, -⟩ := h.start
  obtain ⟨gone, -, hperm⟩ := (conserves_run hregular commands).cars
  have hnone : start.cars = [] := List.flatMap_eq_nil_iff.mpr hempty
  rw [hnone] at hperm
  have hmem := hperm.subset (List.mem_append_left _ (List.mem_map_of_mem hcar))
  exact spawnsIn_of_mem hregular hmem

/-- An account of the cars of a world, after a run from another. -/
structure Account (start : World) (commands : List Command) (world : World) : Prop where
  /-- No identity stands on two roads, or twice on one. -/
  distinct : (world.cars.map Car.id).Nodup
  numbered : ∀ car ∈ world.cars, car.id.index < world.nextCar
  spawned : world.nextCar = world.stats.carsSpawned
  /-- A car is missing exactly when it was discarded. -/
  missing : ∀ id, id.index < world.nextCar →
    (id ∉ world.cars.map Car.id ↔ start.LeavesIn commands id)
  discarded : world.stats.carsDiscarded ≤ world.stats.carsSpawned
  count : world.carCount = world.stats.carsSpawned - world.stats.carsDiscarded
  listed : world.cars.length = world.carCount
  active : world.stats.activeCars = world.carCount
  found : ∀ id road car, world.findCar? id = some (road, car) ↔
    road ∈ world.network.roads ∧ car ∈ road.cars ∧ car.id = id
  notFound : ∀ id, world.findCar? id = none ↔ id ∉ world.cars.map Car.id
  /-- A car has the length it was created with. -/
  length : ∀ car ∈ world.cars, start.SpawnsIn commands car.id car.length

/-- **Cars are conserved.**  Whatever is done to a fresh world, every car that was
created stands in one queue or has left at a dead end, and the counters say so. -/
theorem account_run (h : start.Fresh) (commands : List Command) :
    Account start commands (start.run commands) := by
  have hall := h.ids_perm commands
  obtain ⟨hspawned, hdiscarded⟩ := h.counters commands
  have hrange : ((List.range (start.run commands).nextCar).map CarId.mk).Nodup :=
    List.nodup_range.map fun _ _ heq => CarId.mk.inj heq
  obtain ⟨hdistinct, -, hdisjoint⟩ := List.nodup_append'.mp (hall.nodup_iff.mpr hrange)
  have hlength := hall.length_eq
  rw [List.length_append, List.length_map, List.length_map, List.length_range] at hlength
  have hlisted : (start.run commands).cars.length = (start.run commands).carCount :=
    Network.length_cars_eq_carCount _
  have hcount : (start.run commands).carCount = (start.run commands).stats.carsSpawned -
      (start.run commands).stats.carsDiscarded := by omega
  refine {
    distinct := hdistinct
    numbered := ?_
    spawned := hspawned.symm
    missing := ?_
    discarded := by omega
    count := hcount
    listed := hlisted
    active := hcount.symm
    found := fun id road car => Network.findCar?_eq_some_iff hdistinct
    notFound := fun id => Network.findCar?_eq_none_iff
    length := fun car hcar => h.spawnsIn hcar }
  · intro car hcar
    have hmem := hall.subset (List.mem_append_left _ (List.mem_map_of_mem hcar))
    obtain ⟨index, hindex, hid⟩ := List.mem_map.mp hmem
    rw [← hid]
    exact List.mem_range.mp hindex
  · intro id hid
    rw [← mem_left_iff h.start.1]
    have hmem := hall.symm.subset (List.mem_map.mpr ⟨id.index, List.mem_range.mpr hid, rfl⟩)
    constructor
    · intro hmissing
      exact (List.mem_append.mp hmem).resolve_left hmissing
    · intro hleft hstands
      exact hdisjoint hstands hleft

/-- A wave, a spawn that is refused and one on the arc; later the straight shows stop, and a
second wave enters. -/
def comings : List Command :=
  [.spawnWave, .spawn Binary32.nan ⟨0⟩, .spawn 30 ⟨1⟩] ++ List.replicate 12 .tick ++
    [.setSignal ⟨0⟩ .stop, .configure { followingDistance := 10 }, .spawnWave, .tick, .tick]

/-- Of the three cars one has gone over the arc twice, one is new, and one has left
at the dead end. -/
theorem account_run_fork :
    let start : World := { fork with draws := .ofSeed 2 }
    start.Fresh ∧ (start.run comings).cars.map (fun car => (car.id, car.length)) =
        [(⟨0⟩, 20), (⟨2⟩, 20)] ∧
      (start.run comings).stats =
        { ticks := 14, carsSpawned := 3, handOffs := 6, carsDiscarded := 1 } ∧
      Account start comings (start.run comings) :=
  ⟨fresh_fork_draws _, by decide +kernel, by decide +kernel, account_run (fresh_fork_draws _) _⟩

end World

end RoadTraffic
