import RoadTraffic.Proofs.Road.Histories
import RoadTraffic.Proofs.World.Queues

/-!
# A road of a world by itself

Whatever is done to a world, each of its roads sees of it only what is done to
that road: cars enter, the signal is set, and the road advances.  A command takes
the `World.actions` on a road, and

    road after  =  road before, run through these actions

(`road?_obey`).  A tick is an advance followed by receptions; every other command
is `RoadAction.Quiet` on all roads, so it lets no car leave and moves none.

`exists_road?_obey` says the same of the queue, car by car: what a command leaves on
the road stands at the front, and behind it, at the start of the road, the cars that
enter.
-/

namespace RoadTraffic

/-!
## The roads of a network
-/

namespace Network

variable {network : Network} {id : RoadId}

theorem road?_modifyRoad (network : Network) (target id : RoadId) (f : Road → Road) :
    (network.modifyRoad target f).road? id =
      (network.road? id).map fun road => if target = id then f road else road := by
  have hindex : target.index = id.index ↔ target = id :=
    ⟨RoadId.eq_of_index_eq, congrArg RoadId.index⟩
  simp only [road?, modifyRoad, List.getElem?_modify, hindex]
  rfl

theorem road?_receive (network : Network) (target id : RoadId) (car : Car) :
    (network.receive target car).road? id =
      (network.road? id).map fun road => if target = id then road.receive car else road :=
  road?_modifyRoad network target id _

theorem road?_advance (network : Network) (d : Float32) (id : RoadId) :
    (network.advance d).1.road? id = (network.road? id).map fun road => (road.advance d).1 := by
  rw [advance_eq, road?, List.getElem?_map]
  rfl

theorem road?_toggleSignals (network : Network) (id : RoadId) :
    network.toggleSignals.road? id = (network.road? id).map Road.toggleSignal :=
  List.getElem?_map

/-- A road receives the cars that are delivered to it. -/
theorem road?_receiveAll (network : Network) (deliveries : List (RoadId × Car)) (id : RoadId) :
    (network.receiveAll deliveries).road? id = (network.road? id).map fun road =>
      (road.run ((deliveries.filter (·.1 = id)).map fun delivery => .receive delivery.2)).1 := by
  induction deliveries generalizing network with
  | nil => exact Option.map_id'.symm
  | cons delivery deliveries ih =>
      obtain ⟨target, car⟩ := delivery
      rw [receiveAll_cons, ih, road?_receive, Option.map_map, List.filter_cons]
      by_cases htarget : target = id
      · simp only [htarget, if_true, decide_true, List.map_cons]
        rfl
      · simp only [htarget, if_false, decide_false]
        rfl

end Network

/-!
## The actions of a command on a road
-/

/-- The reception that the event tells of, if it tells of one on that road. -/
def Event.receipt? (id : RoadId) : Event → Option RoadAction
  | .carSpawned car length road => if road = id then some (.receive (.new car length)) else none
  | _ => none

namespace World

variable (world : World) (id : RoadId)

/-- What a command does to one road. -/
def actions : Command → List RoadAction
  | .tick => .advance world.config.followingDistance ::
      ((route world.network.successors world.draws world.departures).filter (·.1 = id)).map
        fun delivery => .receive delivery.2
  | .spawn length road => (world.spawn length road).events.filterMap (Event.receipt? id)
  | .spawnWave => world.spawnWave.events.filterMap (Event.receipt? id)
  | .toggleSignals | .network .toggleSignals =>
    (world.network.road? id).toList.map fun road => .setSignal road.signal.toggled
  | .setSignal target signal | .network (.setSignal target signal) =>
    if target = id then [.setSignal signal] else []
  | .configure _ => []

theorem road?_spawn (length : Float32) (target : RoadId) :
    (world.spawn length target).world.network.road? id = (world.network.road? id).map fun road =>
      (road.run ((world.spawn length target).events.filterMap (Event.receipt? id))).1 := by
  unfold spawn
  cases hcheck : world.checkSpawn length target with
  | error reason => exact Option.map_id'.symm
  | ok =>
      refine (Network.road?_receive _ target id _).trans ?_
      by_cases htarget : target = id
      · simp only [htarget, if_true, List.filterMap_cons, List.filterMap_nil, Event.receipt?]
        rfl
      · simp only [htarget, if_false, List.filterMap_cons, List.filterMap_nil, Event.receipt?]
        rfl

theorem road?_spawnEach (length : Float32) (roads : List RoadId) :
    (world.spawnEach length roads).world.network.road? id =
      (world.network.road? id).map fun road =>
        (road.run ((world.spawnEach length roads).events.filterMap (Event.receipt? id))).1 := by
  induction roads generalizing world with
  | nil => exact Option.map_id'.symm
  | cons target roads ih =>
      have hfirst := world.road?_spawn id length target
      simp only [spawnEach]
      split
      · exact hfirst
      · rw [ih, hfirst, Option.map_map, List.filterMap_append]
        simp only [Function.comp_def, Road.run_append]

theorem road?_setSignal (target : RoadId) (signal : Signal) :
    (world.setSignal target signal).world.network.road? id =
      (world.network.road? id).map fun road =>
        (road.run (if target = id then [.setSignal signal] else [])).1 := by
  unfold setSignal Network.setSignal
  by_cases hhas : world.network.has target = true
  · simp only [hhas, if_true]
    rw [Network.road?_modifyRoad]
    congr 1
    funext road
    split <;> rfl
  · simp only [hhas, Bool.false_eq_true, if_false]
    cases hroad : world.network.road? id with
    | none => rfl
    | some road =>
        -- The road exists and the target does not, so the target is another road.
        have hindex : id.index < world.network.roads.length :=
          (List.getElem?_eq_some_iff.mp hroad).1
        have hne : target ≠ id := by
          intro heq
          exact hhas (heq ▸ decide_eq_true hindex)
        simp only [hne, if_false]
        rfl

theorem road?_toggleSignals : world.network.toggleSignals.road? id =
    (world.network.road? id).map fun road =>
      (road.run ((world.network.road? id).toList.map fun road =>
        .setSignal road.signal.toggled)).1 := by
  rw [Network.road?_toggleSignals]
  cases world.network.road? id <;> rfl

variable {world}

/-- **A road by itself.**  What a command makes of a road is what a history makes of
it that says nothing of other roads. -/
theorem road?_obey (h : world.network.Regular) (id : RoadId) (command : Command) :
    (world.obey command).world.network.road? id =
      (world.network.road? id).map fun road => (road.run (world.actions id command)).1 := by
  cases command with
  | tick =>
      obtain ⟨deliveries, discarded, final, hrouted, htick⟩ := world.tick_eq h
      have hnetwork : world.tick.1.network =
          (world.network.advance world.config.followingDistance).1.receiveAll deliveries := by
        rw [htick, advanceRoads_eq]
        rfl
      refine (congrArg (·.road? id) hnetwork).trans ?_
      rw [Network.road?_receiveAll, Network.road?_advance, Option.map_map,
        hrouted.deliveries_eq]
      rfl
  | spawn length target => exact world.road?_spawn id length target
  | spawnWave => exact world.road?_spawnEach id _ _
  | toggleSignals => exact world.road?_toggleSignals id
  | setSignal target signal => exact world.road?_setSignal id target signal
  | configure config => exact Option.map_id'.symm
  | network command =>
      cases command with
      | toggleSignals => exact world.road?_toggleSignals id
      | setSignal target signal => exact world.road?_setSignal id target signal

/-!
## What a command leaves on a road, and what enters it
-/

/-- Only a tick does more to a road than to let cars enter and to set the signal. -/
theorem quiet_actions (id : RoadId) {command : Command} (h : command ≠ .tick) :
    ∀ action ∈ world.actions id command, action.Quiet := by
  have hreceipts : ∀ events : List Event,
      ∀ action ∈ events.filterMap (Event.receipt? id), action.Quiet := by
    intro events action haction
    obtain ⟨event, -, hreceipt⟩ := List.mem_filterMap.mp haction
    unfold Event.receipt? at hreceipt
    split at hreceipt
    · split at hreceipt
      · exact Option.some.inj hreceipt ▸ trivial
      · exact nomatch hreceipt
    · exact nomatch hreceipt
  have hflip : ∀ action ∈ (world.network.road? id).toList.map fun road =>
      RoadAction.setSignal road.signal.toggled, action.Quiet := by
    intro action haction
    obtain ⟨road, -, rfl⟩ := List.mem_map.mp haction
    trivial
  have hset : ∀ (target : RoadId) (signal : Signal),
      ∀ action ∈ if target = id then [RoadAction.setSignal signal] else [], action.Quiet := by
    intro target signal
    split
    · exact List.forall_mem_singleton.mpr trivial
    · exact List.forall_mem_nil _
  cases command with
  | tick => exact absurd rfl h
  | spawn length road => exact hreceipts _
  | spawnWave => exact hreceipts _
  | toggleSignals => exact hflip
  | setSignal target signal => exact hset target signal
  | configure config => exact List.forall_mem_nil _
  | network command =>
      cases command with
      | toggleSignals => exact hflip
      | setSignal target signal => exact hset target signal

/-- The cars that enter a road are those that the actions on it receive. -/
theorem receives_actions (id : RoadId) (command : Command) :
    (Road.receives (world.actions id command)).map Car.id = world.entering id command := by
  have hreceipts : ∀ events : List Event,
      (Road.receives (events.filterMap (Event.receipt? id))).map Car.id =
        events.filterMap (Event.entered? id) := by
    intro events
    rw [Road.receives, List.filterMap_filterMap, List.map_filterMap]
    refine congrArg (List.filterMap · events) (funext fun event => ?_)
    cases event with
    | carSpawned car length road =>
        simp only [Event.receipt?, Event.entered?]
        split <;> rfl
    | _ => rfl
  have hflip : (Road.receives ((world.network.road? id).toList.map fun road =>
      RoadAction.setSignal road.signal.toggled)).map Car.id = [] := by
    cases world.network.road? id <;> rfl
  have hset : ∀ (target : RoadId) (signal : Signal),
      (Road.receives (if target = id then [RoadAction.setSignal signal] else [])).map Car.id =
        (world.setSignal target signal).events.filterMap (Event.entered? id) := by
    intro target signal
    rw [events_setSignal]
    split <;> rfl
  cases command with
  | tick =>
      have hcars : ∀ deliveries : List (RoadId × Car), Road.receives (deliveries.map
          fun delivery => RoadAction.receive delivery.2) = deliveries.map Prod.snd := by
        intro deliveries
        rw [← Road.receives_map_receive (deliveries.map Prod.snd), List.map_map]
        rfl
      have htick : Road.receives (world.actions id .tick) = _ := hcars _
      rw [htick, List.map_map]
      rfl
  | spawn length road => exact hreceipts _
  | spawnWave => exact hreceipts _
  | toggleSignals => exact hflip
  | setSignal target signal => exact hset target signal
  | configure config => rfl
  | network command =>
      cases command with
      | toggleSignals => exact hflip
      | setSignal target signal => exact hset target signal

/-- The cars of a road that a command leaves on it. -/
def staying (world : World) (road : Road) : Command → List Car
  | .tick => (road.advance world.config.followingDistance).1.cars
  | _ => road.cars

theorem staying_of_ne_tick {road : Road} {command : Command} (h : command ≠ .tick) :
    world.staying road command = road.cars := by
  cases command <;> first | rfl | exact absurd rfl h

/-- What is left on a road has stood there before. -/
theorem staying_subset (world : World) (road : Road) (command : Command) :
    (world.staying road command).map Car.id ⊆ road.cars.map Car.id := by
  by_cases htick : command = .tick
  · subst htick
    have hperm := (road.part_perm world.config.followingDistance world.config.followingDistance
      road.cars).map Prod.fst
    rw [← Road.partQueue_eq_part, List.map_append, List.map_map, List.map_map,
      List.map_map] at hperm
    exact List.Subset.trans (List.subset_append_left _ _) hperm.subset
  · rw [staying_of_ne_tick htick]
    exact List.Subset.refl _

/-- The cars that enter stand behind those that the command leaves on the road. -/
theorem run_actions (world : World) (id : RoadId) (road : Road) (command : Command) :
    (road.run (world.actions id command)).1.bare = road.bare ∧
      (road.run (world.actions id command)).1.cars = world.staying road command ++
        (Road.receives (world.actions id command)).map (·.entering road.course.startPose) := by
  by_cases htick : command = .tick
  · subst htick
    have hquiet : ∀ action ∈ ((route world.network.successors world.draws
        world.departures).filter (·.1 = id)).map (fun delivery => RoadAction.receive delivery.2),
        action.Quiet := by
      intro action haction
      obtain ⟨delivery, -, rfl⟩ := List.mem_map.mp haction
      trivial
    exact ((road.advance world.config.followingDistance).1.run_of_quiet hquiet).2
  · rw [staying_of_ne_tick htick]
    exact (road.run_of_quiet (world.quiet_actions id htick)).2

/-- **One command and one road.**  The cars that a command leaves on a road stand at the
front of it, and behind them, at the start, those that enter. -/
theorem exists_road?_obey (h : world.network.Regular) {id : RoadId} {road : Road}
    (hroad : world.network.road? id = some road) (command : Command) :
    ∃ next entered, (world.obey command).world.network.road? id = some next ∧
      next.bare = road.bare ∧ next.cars = world.staying road command ++ entered ∧
      entered.map Car.id = world.entering id command ∧ ∀ car ∈ entered, car.progress = 0 := by
  obtain ⟨hbare, hcars⟩ := world.run_actions id road command
  have hnext := road?_obey h id command
  rw [hroad, Option.map_some] at hnext
  refine ⟨_, _, hnext, hbare, hcars, ?_, ?_⟩
  · rw [List.map_map]
    exact receives_actions id command
  · intro car hcar
    obtain ⟨was, -, rfl⟩ := List.mem_map.mp hcar
    rfl

theorem queue_eq_of_road? {id : RoadId} {road : Road}
    (hroad : world.network.road? id = some road) :
    world.network.queue id = road.cars.map Car.id := by
  rw [Network.queue, hroad]
  rfl

theorem exists_road?_of_mem_queue {id : RoadId} {car : CarId}
    (h : car ∈ world.network.queue id) :
    ∃ road, world.network.road? id = some road ∧ car ∈ road.cars.map Car.id := by
  cases hroad : world.network.road? id with
  | none =>
      rw [Network.queue, hroad] at h
      cases h
  | some road =>
      rw [queue_eq_of_road? hroad] at h
      exact ⟨road, rfl, h⟩

/-- The cars that leave a road in a tick are those that depart from it. -/
theorem leaving_tick {id : RoadId} {road : Road} (hroad : world.network.road? id = some road) :
    world.leaving id .tick = (road.advance world.config.followingDistance).2.map Car.id := by
  rw [leaving, Network.departing, hroad]
  rfl

theorem leaving_of_ne_tick {id : RoadId} {command : Command} (h : command ≠ .tick) :
    world.leaving id command = [] := by
  cases command <;> first | rfl | exact absurd rfl h

end World

end RoadTraffic
