import RoadTraffic.Proofs.Road.QueueOrder
import RoadTraffic.Proofs.World.Routing

/-!
# First in, first out

A car enters a road when it is spawned there or delivered there, and leaves it when
it departs in a tick.  What one command does to the queue of any road is

    queue before, and cars that enter  =  cars that leave, and queue after

as lists of identities (`queue_obey`).  That cars enter at the back holds always;
that they leave at the front holds of a road that is `Road.Orderly`, in a tick whose
following distance is not negative.  Both are kept by every command, so over a run
from empty queues

    cars received  =  cars released, and queue after,

whatever the signals have shown in between (`inOrder_run`).
-/

namespace RoadTraffic

open Binary32

namespace Network

variable {network : Network} {id : RoadId} {d : Float32}

/-!
## Orderly networks
-/

/-- Is every road orderly? -/
def Orderly (network : Network) : Prop := ∀ road ∈ network.roads, road.Orderly

namespace Orderly

theorem modifyRoad (h : network.Orderly) {f : Road → Road}
    (hf : ∀ road : Road, road.Orderly → (f road).Orderly) : (network.modifyRoad id f).Orderly := by
  intro road hroad
  obtain ⟨index, hindex⟩ := List.mem_iff_getElem?.mp hroad
  rw [Network.modifyRoad, List.getElem?_modify] at hindex
  obtain ⟨was, hwas, hnow⟩ := Option.map_eq_some_iff.mp hindex
  have horderly := h was (List.mem_iff_getElem?.mpr ⟨index, hwas⟩)
  rw [← hnow]
  split
  · exact hf was horderly
  · exact horderly

theorem map (h : network.Orderly) {f : Road → Road}
    (hf : ∀ road : Road, road.Orderly → (f road).Orderly) :
    ({ network with roads := network.roads.map f } : Network).Orderly := by
  intro road hroad
  obtain ⟨was, hwas, rfl⟩ := List.mem_map.mp hroad
  exact hf was (h was hwas)

theorem receive (h : network.Orderly) {car : Car} (hlength : 0 ≤ car.length) :
    (network.receive id car).Orderly :=
  h.modifyRoad fun _ horderly => horderly.receive hlength

theorem receiveAll (h : network.Orderly) {deliveries : List (RoadId × Car)}
    (hlength : ∀ delivery ∈ deliveries, 0 ≤ delivery.2.length) :
    (network.receiveAll deliveries).Orderly := by
  induction deliveries generalizing network with
  | nil => exact h
  | cons delivery deliveries ih =>
      obtain ⟨hfirst, hothers⟩ := List.forall_mem_cons.mp hlength
      exact ih (h.receive hfirst) hothers

theorem advance (h : network.Orderly) (hd : 0 ≤ d) : (network.advance d).1.Orderly := by
  rw [advance_eq]
  exact h.map fun _ horderly => horderly.advance hd

theorem toggleSignals (h : network.Orderly) : network.toggleSignals.Orderly :=
  h.map fun _ horderly => horderly.setSignal _

theorem setSignal (h : network.Orderly) {signal : Signal} {other : Network}
    (hset : network.setSignal id signal = .ok other) : other.Orderly := by
  unfold Network.setSignal at hset
  split at hset
  · rw [← Except.ok.inj hset]
    exact h.modifyRoad fun _ horderly => horderly.setSignal signal
  · exact nomatch hset

end Orderly

/-!
## Queues
-/

/-- The queue of a road, front first. -/
def queue (network : Network) (id : RoadId) : List CarId :=
  ((network.road? id).map fun road => road.cars.map Car.id).getD []

/-- The cars that depart from a road in a tick, in the order they leave. -/
def departing (network : Network) (d : Float32) (id : RoadId) : List CarId :=
  ((network.road? id).map fun road => (road.advance d).2.map Car.id).getD []

theorem queue_modifyRoad (target : RoadId) {f : Road → Road}
    (hf : ∀ road, (f road).cars = road.cars) :
    (network.modifyRoad target f).queue id = network.queue id := by
  simp only [queue, road?, modifyRoad, List.getElem?_modify]
  cases network.roads[id.index]? with
  | none => rfl
  | some road =>
      simp only [Option.map_eq_map, Option.map_some, Option.getD_some]
      split
      · rw [hf]
      · rfl

theorem queue_map {f : Road → Road} (hf : ∀ road, (f road).cars = road.cars) :
    ({ network with roads := network.roads.map f } : Network).queue id = network.queue id := by
  simp only [queue, road?, List.getElem?_map, Option.map_map, Function.comp_def, hf]

/-- Cars enter at the back. -/
theorem queue_receive {target : RoadId} (h : network.has target = true) (car : Car) :
    (network.receive target car).queue id =
      network.queue id ++ if target = id then [car.id] else [] := by
  simp only [queue, road?, receive, modifyRoad, List.getElem?_modify]
  by_cases htarget : target = id
  · have hindex : id.index < network.roads.length := by
      rw [← htarget]
      exact of_decide_eq_true h
    rw [List.getElem?_eq_getElem hindex, if_pos htarget]
    simp [htarget, Road.receive, Car.entering]
  · have hne : target.index ≠ id.index := by
      intro heq
      exact htarget (congrArg RoadId.mk heq)
    simp [htarget, hne]

theorem queue_receiveAll {deliveries : List (RoadId × Car)}
    (h : ∀ delivery ∈ deliveries, network.has delivery.1 = true) :
    (network.receiveAll deliveries).queue id =
      network.queue id ++ (deliveries.filter (·.1 = id)).map (·.2.id) := by
  induction deliveries generalizing network with
  | nil => exact (List.append_nil _).symm
  | cons delivery deliveries ih =>
      obtain ⟨target, car⟩ := delivery
      obtain ⟨hfirst, hothers⟩ := List.forall_mem_cons.mp h
      have hhas : ∀ other ∈ deliveries, (network.receive target car).has other.1 = true := by
        intro other hother
        rw [has_eq_of_frame_eq (frame_receive target car)]
        exact hothers other hother
      rw [receiveAll_cons, ih hhas, queue_receive hfirst, List.append_assoc, List.filter_cons]
      by_cases htarget : target = id <;> simp [htarget]

/-- Cars leave at the front. -/
theorem Orderly.queue_eq (h : network.Orderly) (hd : 0 ≤ d) (id : RoadId) :
    network.queue id = network.departing d id ++ (network.advance d).1.queue id := by
  rw [advance_eq]
  simp only [queue, departing, road?, List.getElem?_map, Option.map_map]
  cases hroad : network.roads[id.index]? with
  | none => rfl
  | some road =>
      have horderly := h road (List.mem_iff_getElem?.mpr ⟨id.index, hroad⟩)
      obtain ⟨rest, hsplit, hkept⟩ := horderly.departed_append hd
      have hids := congrArg (List.map Prod.fst) hkept
      rw [List.map_map, List.map_map] at hids
      have hcars := congrArg (List.map Car.id) hsplit
      rw [List.map_append] at hcars
      exact hcars.trans (congrArg _ hids.symm)

end Network

/-!
## Deliveries
-/

/-- The deliveries of departed cars: each to a road drawn from those that follow the
road it has left, and none from a dead end. -/
def route (next : RoadId → List RoadId) (draws : Draws) :
    List (RoadId × Car) → List (RoadId × Car)
  | [] => []
  | (road, car) :: departures =>
    match draws.choose (next road) with
    | (none, drawn) => route next drawn departures
    | (some target, drawn) => (target, car) :: route next drawn departures

namespace Routed

variable {next : RoadId → List RoadId} {draws final : Draws}
  {departures deliveries discarded : List (RoadId × Car)}

theorem deliveries_eq (h : Routed next draws departures deliveries discarded final) :
    deliveries = route next draws departures := by
  induction h with
  | done => rfl
  | discarded hdeadEnd _ ih =>
      rw [route, hdeadEnd]
      exact ih
  | delivered hchoice _ _ ih =>
      rw [route, hchoice]
      exact congrArg _ ih

end Routed

/-- The car that is spawned on the road, if the event tells of one. -/
def Event.entered? (id : RoadId) : Event → Option CarId
  | .carSpawned car _ road => if road = id then some car else none
  | _ => none

namespace World

variable (world : World) (id : RoadId)

/-!
## One command
-/

/-- The cars that enter a road, in their order, when a command is obeyed. -/
def entering (id : RoadId) : Command → List CarId
  | .tick =>
    ((route world.network.successors world.draws world.departures).filter (·.1 = id)).map (·.2.id)
  | command => (world.obey command).events.filterMap (Event.entered? id)

/-- The cars that leave a road, in their order, when a command is obeyed. -/
def leaving (id : RoadId) : Command → List CarId
  | .tick => world.network.departing world.config.followingDistance id
  | _ => []

theorem queue_spawn (length : Float32) (road : RoadId) :
    (world.spawn length road).world.network.queue id = world.network.queue id ++
      (world.spawn length road).events.filterMap (Event.entered? id) := by
  unfold spawn
  cases hcheck : world.checkSpawn length road with
  | error reason => exact (List.append_nil _).symm
  | ok =>
      obtain ⟨-, hhas⟩ := world.checkSpawn_eq_ok_iff.mp hcheck
      refine (Network.queue_receive hhas _).trans ?_
      by_cases hroad : road = id <;> simp [Event.entered?, hroad, Car.new]

theorem orderly_spawn (h : world.network.Orderly) (length : Float32) (road : RoadId) :
    (world.spawn length road).world.network.Orderly := by
  unfold spawn
  cases hcheck : world.checkSpawn length road with
  | error reason => exact h
  | ok =>
      obtain ⟨⟨-, hpos⟩, -⟩ := world.checkSpawn_eq_ok_iff.mp hcheck
      exact h.receive (le_of_lt hpos)

theorem queue_spawnEach (length : Float32) (roads : List RoadId) :
    (world.spawnEach length roads).world.network.queue id = world.network.queue id ++
      (world.spawnEach length roads).events.filterMap (Event.entered? id) := by
  induction roads generalizing world with
  | nil => exact (List.append_nil _).symm
  | cons road roads ih =>
      have hfirst := world.queue_spawn id length road
      simp only [spawnEach]
      split
      · exact hfirst
      · rw [ih, hfirst, List.filterMap_append, List.append_assoc]

theorem orderly_spawnEach (h : world.network.Orderly) (length : Float32) (roads : List RoadId) :
    (world.spawnEach length roads).world.network.Orderly := by
  induction roads generalizing world with
  | nil => exact h
  | cons road roads ih =>
      have hfirst := world.orderly_spawn h length road
      simp only [spawnEach]
      split
      · exact hfirst
      · exact ih _ hfirst

theorem queue_setSignal (road : RoadId) (signal : Signal) :
    (world.setSignal road signal).world.network.queue id = world.network.queue id ++
      (world.setSignal road signal).events.filterMap (Event.entered? id) := by
  unfold setSignal Network.setSignal
  split
  · exact (List.append_nil _).symm
  · next network hset =>
      split at hset
      · rw [← Except.ok.inj hset]
        have hqueue : (world.network.modifyRoad road (·.setSignal signal)).queue id =
            world.network.queue id := Network.queue_modifyRoad road fun _ => rfl
        exact hqueue.trans (List.append_nil _).symm
      · exact nomatch hset

theorem orderly_setSignal (h : world.network.Orderly) (road : RoadId) (signal : Signal) :
    (world.setSignal road signal).world.network.Orderly := by
  unfold setSignal
  split
  · exact h
  · next network hset => exact h.setSignal hset

variable {world}

/-- In a tick of an orderly network all cars that enter a road go to the back, and
those that leave it were at the front. -/
theorem tick_spec (hregular : world.network.Regular) (h : world.network.Orderly)
    (hd : 0 ≤ world.config.followingDistance) :
    world.tick.1.network.Orderly ∧ ∀ id,
      world.network.queue id ++ world.entering id .tick =
        world.leaving id .tick ++ world.tick.1.network.queue id := by
  obtain ⟨deliveries, discarded, final, hrouted, htick⟩ := world.tick_eq hregular
  have hhas := hregular.has_of_mem_deliveries world.config.followingDistance hrouted
  have hlength : ∀ delivery ∈ deliveries, 0 ≤ delivery.2.length := by
    intro delivery hdelivery
    obtain ⟨source, -, hdeparted⟩ := hrouted.mem_deliveries delivery hdelivery
    obtain ⟨road, hroad, hmem⟩ := List.mem_flatMap.mp hdeparted
    obtain ⟨car, hcar, heq⟩ := List.mem_map.mp hmem
    obtain ⟨rest, hsplit, -⟩ := (h road hroad).departed_append hd
    obtain ⟨-, rfl⟩ := Prod.mk.inj heq
    refine (h road hroad).length _ ?_
    rw [hsplit]
    exact List.mem_append_left _ hcar
  rw [htick, advanceRoads_eq]
  refine ⟨(h.advance hd).receiveAll hlength, fun id => ?_⟩
  have hqueue : ((world.network.advance world.config.followingDistance).1.receiveAll
      deliveries).queue id = _ := Network.queue_receiveAll hhas
  rw [entering, leaving, handedOn, hqueue, h.queue_eq hd id, ← hrouted.deliveries_eq,
    List.append_assoc]

/-- **One command and one queue.** -/
theorem queue_obey (hregular : world.network.Regular) (h : world.network.Orderly)
    {command : Command} (hd : command = .tick → 0 ≤ world.config.followingDistance) :
    (world.obey command).world.network.Orderly ∧ ∀ id,
      world.network.queue id ++ world.entering id command =
        world.leaving id command ++ (world.obey command).world.network.queue id := by
  have htoggle : ∀ id, world.network.queue id ++ [] = world.network.toggleSignals.queue id := by
    intro id
    rw [List.append_nil]
    exact (Network.queue_map (f := Road.toggleSignal) fun _ => rfl).symm
  cases command with
  | tick => exact tick_spec hregular h (hd rfl)
  | spawn length road =>
      exact ⟨world.orderly_spawn h length road, fun id => (world.queue_spawn id length road).symm⟩
  | spawnWave =>
      exact ⟨world.orderly_spawnEach h _ _, fun id => (world.queue_spawnEach id _ _).symm⟩
  | toggleSignals => exact ⟨h.toggleSignals, htoggle⟩
  | setSignal road signal =>
      exact ⟨world.orderly_setSignal h road signal,
        fun id => (world.queue_setSignal id road signal).symm⟩
  | configure config => exact ⟨h, fun id => List.append_nil _⟩
  | network command =>
      cases command with
      | toggleSignals => exact ⟨h.toggleSignals, htoggle⟩
      | setSignal road signal =>
          exact ⟨world.orderly_setSignal h road signal,
            fun id => (world.queue_setSignal id road signal).symm⟩

/-!
## A whole run
-/

/-- Is the following distance zero or more at every tick of the run? -/
def Spaced (world : World) : List Command → Prop
  | [] => True
  | command :: commands =>
    (command = .tick → 0 ≤ world.config.followingDistance) ∧
      (world.obey command).world.Spaced commands

instance decidableSpaced : (world : World) → (commands : List Command) →
    Decidable (world.Spaced commands)
  | _, [] => isTrue trivial
  | world, command :: commands =>
    have := decidableSpaced (world.obey command).world commands
    inferInstanceAs (Decidable ((command = .tick → 0 ≤ world.config.followingDistance) ∧
      (world.obey command).world.Spaced commands))

theorem spaced_append {first second : List Command} : world.Spaced (first ++ second) ↔
    world.Spaced first ∧ (world.run first).Spaced second := by
  induction first generalizing world with
  | nil => exact ⟨fun hsecond => ⟨trivial, hsecond⟩, And.right⟩
  | cons command first ih => rw [List.cons_append, Spaced, Spaced, ih, run_cons, and_assoc]

/-- The cars that enter a road in a run, in their order. -/
def received (world : World) (id : RoadId) : List Command → List CarId
  | [] => []
  | command :: commands =>
    world.entering id command ++ (world.obey command).world.received id commands

/-- The cars that leave a road in a run, in their order. -/
def released (world : World) (id : RoadId) : List Command → List CarId
  | [] => []
  | command :: commands =>
    world.leaving id command ++ (world.obey command).world.released id commands

theorem queue_run (hregular : world.network.Regular) (h : world.network.Orderly)
    {commands : List Command} (hspaced : world.Spaced commands) :
    (world.run commands).network.Orderly ∧ ∀ id,
      world.network.queue id ++ world.received id commands =
        world.released id commands ++ (world.run commands).network.queue id := by
  induction commands generalizing world with
  | nil => exact ⟨h, fun id => List.append_nil _⟩
  | cons command commands ih =>
      obtain ⟨hd, hlater⟩ := hspaced
      obtain ⟨horderly, hqueue⟩ := queue_obey hregular h hd
      obtain ⟨hfinal, hqueues⟩ :=
        ih (hregular.of_frame_eq (world.frame_obey command)) horderly hlater
      refine ⟨hfinal, fun id => ?_⟩
      rw [received, released, ← List.append_assoc, hqueue, List.append_assoc, hqueues,
        List.append_assoc]
      rfl

theorem Fresh.orderly {start : World} (h : start.Fresh) : start.network.Orderly := by
  obtain ⟨hregular, hempty, -⟩ := h.start
  exact fun road hroad => .of_cars_eq_nil (hregular.fit road hroad) (hempty road hroad)

/-- What a run from a world has made of its queues. -/
structure InOrder (start : World) (commands : List Command) (world : World) : Prop where
  /-- Towards the back of a queue no car is further along. -/
  sorted : ∀ road ∈ world.network.roads,
    road.cars.Pairwise fun a b => road.come b.progress ≤ road.come a.progress
  /-- The cars that depart in a next tick are the front of the queue. -/
  departing : 0 ≤ world.config.followingDistance → ∀ road ∈ world.network.roads,
    (road.advance world.config.followingDistance).2 <+: road.cars
  /-- A road has released the cars that it received, in the order it received them, up
  to those that are in its queue. -/
  received : ∀ road ∈ world.network.roads,
    start.received road.id commands = start.released road.id commands ++ road.cars.map Car.id

/-- **First in, first out.**  If the following distance is never negative at a tick, no
car overtakes another on its road, and cars leave every road in the order in which they
entered it, whatever the signals show. -/
theorem inOrder_run {start : World} (h : start.Fresh) {commands : List Command}
    (hspaced : start.Spaced commands) : InOrder start commands (start.run commands) := by
  obtain ⟨hregular, hempty, -⟩ := h.start
  have horderly : start.network.Orderly := fun road hroad =>
    .of_cars_eq_nil (hregular.fit road hroad) (hempty road hroad)
  obtain ⟨hfinal, hqueues⟩ := queue_run hregular horderly hspaced
  refine ⟨?_, ?_, ?_⟩
  · intro road hroad
    exact (hfinal road hroad).come_pairwise
  · intro hd road hroad
    obtain ⟨rest, hsplit, -⟩ := (hfinal road hroad).departed_append hd
    exact ⟨rest, hsplit.symm⟩
  · intro road hroad
    obtain ⟨index, hindex⟩ := List.mem_iff_getElem?.mp hroad
    have hid := (h.regular_run commands).id index road hindex
    have hqueue : (start.run commands).network.queue road.id = road.cars.map Car.id := by
      rw [Network.queue, Network.road?, hid, hindex]
      rfl
    have hstart : start.network.queue road.id = [] := by
      rw [Network.queue, Network.road?]
      cases hfirst : start.network.roads[road.id.index]? with
      | none => rfl
      | some first =>
          have hnone := hempty first (List.mem_iff_getElem?.mpr ⟨road.id.index, hfirst⟩)
          rw [Option.map_some, hnone]
          rfl
    have hrun := hqueues road.id
    rw [hstart, hqueue, List.nil_append] at hrun
    exact hrun

/-- Two cars on a road that is closed until both have come near its end. -/
def heldUp : List Command :=
  [.spawn 20 ⟨0⟩, .tick, .spawnWave, .setSignal ⟨0⟩ .stop] ++ List.replicate 22 .tick ++
    .setSignal ⟨0⟩ .proceed :: List.replicate 16 .tick

/-- They go round the road that leads back to itself, one after the other. -/
theorem inOrder_run_loop :
    loop.Spaced heldUp ∧ loop.received ⟨0⟩ heldUp = [⟨0⟩, ⟨1⟩, ⟨0⟩, ⟨1⟩] ∧
      InOrder loop heldUp (loop.run heldUp) := by
  have hspaced : loop.Spaced heldUp := by decide +kernel
  exact ⟨hspaced, by decide +kernel, inOrder_run fresh_loop hspaced⟩

end World

end RoadTraffic
