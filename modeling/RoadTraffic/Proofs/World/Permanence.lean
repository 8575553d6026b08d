import RoadTraffic.Proofs.Network.Graph
import RoadTraffic.Proofs.World.Routing
import RoadTraffic.Proofs.World.Waves

/-!
# What is built stays

A network is checked once, when it is built, and used unchecked ever after: a departed
car is handed to whatever road its successor list names, and a wave enters at whatever
the entry points are.  This is safe because no command touches what was checked.

* `Frozen built now` says that a network still is the one that was built, apart from its
  queues and signals, and that all roads it names exist.
* `HandsOn world` says that the next tick never misses: wherever it hands a car on, the
  chosen road exists, and the car is counted as handed on or as discarded.

Both hold at every point of every run (`frozen_run`).
-/

namespace RoadTraffic

namespace Network

/-- A network that is as it was built, apart from queues and signals. -/
structure Frozen (built now : Network) : Prop where
  length : now.roads.length = built.roads.length
  id : ∀ (index : Nat) (road : Road), now.roads[index]? = some road → road.id = ⟨index⟩
  courses : now.roads.map Road.course = built.roads.map Road.course
  speeds : now.roads.map Road.speed = built.roads.map Road.speed
  successors : now.roads.map Road.successors = built.roads.map Road.successors
  entryPoints : now.entryPoints = built.entryPoints
  isReachable : now.isReachable = built.isReachable
  /-- Every successor is a road. -/
  successor : ∀ road ∈ now.roads, ∀ next ∈ road.successors, now.has next = true
  /-- Every entry point is a road. -/
  entryPoint : ∀ entry ∈ now.entryPoints, now.has entry = true

variable {built now : Network}

/-- What can be read off a bare road is a matter of the frame. -/
theorem map_eq_of_frame_eq {α : Type} {g : Road → α} (hg : ∀ road : Road, g road.bare = g road)
    (h : now.frame = built.frame) : now.roads.map g = built.roads.map g := by
  have hbare : ∀ network : Network, network.roads.map g = network.frame.1.map g := by
    intro network
    rw [frame, List.map_map]
    exact List.map_congr_left fun road _ => (hg road).symm
  rw [hbare, hbare, h]

/-- In a regular network the successors of a road are those of its identity. -/
theorem Regular.successors_id (h : now.Regular) {road : Road} (hroad : road ∈ now.roads) :
    now.successors road.id = road.successors := by
  obtain ⟨index, hindex⟩ := List.mem_iff_getElem?.mp hroad
  rw [h.id index road hindex, successors, road?, hindex]
  rfl

theorem Regular.frozen (h : built.Regular) (hframe : now.frame = built.frame) :
    Frozen built now := by
  have hregular := h.of_frame_eq hframe
  refine {
    length := length_eq_of_frame_eq hframe
    id := hregular.id
    courses := map_eq_of_frame_eq (fun _ => rfl) hframe
    speeds := map_eq_of_frame_eq (fun _ => rfl) hframe
    successors := map_eq_of_frame_eq (fun _ => rfl) hframe
    entryPoints := congrArg Prod.snd hframe
    isReachable := isReachable_eq_of_frame_eq hframe
    successor := ?_
    entryPoint := hregular.entryPoint }
  intro road hroad next hnext
  rw [← hregular.successors_id hroad] at hnext
  exact hregular.successor road.id next hnext

end Network

namespace World

variable {world : World}

/-!
## Handing on
-/

theorem handOffAll_append (world : World) (before after : List (RoadId × Car)) :
    (world.handOffAll (before ++ after)).1 = ((world.handOffAll before).1.handOffAll after).1 := by
  induction before generalizing world with
  | nil => rfl
  | cons departure before ih => exact ih _

/-- The world in which a tick hands on the car that departs after `before`. -/
def handingOn (world : World) (before : List (RoadId × Car)) : World :=
  (world.advanceRoads.1.handOffAll before).1

theorem frame_handingOn (world : World) (before : List (RoadId × Car)) :
    (world.handingOn before).network.frame = world.network.frame :=
  (frame_handOffAll _ before).trans (Network.frame_advance _)

/-- A tick goes on from there. -/
theorem tick_eq_handingOn {before after : List (RoadId × Car)} {road : RoadId} {car : Car}
    (h : world.departures = before ++ (road, car) :: after) :
    world.tick.1 = (((world.handingOn before).handOff road car).1.handOffAll after).1 := by
  have htick : world.tick.1 = (world.advanceRoads.1.handOffAll world.departures).1 := by
    rw [tick, advanceRoads_eq]
  rw [htick, h, handOffAll_append]
  rfl

/-- In a regular network the road that is chosen for a car exists. -/
theorem has_of_chooseSuccessor (h : world.network.Regular) {road next : RoadId} {drawn : World}
    (hchoice : world.chooseSuccessor road = (some next, drawn)) :
    next ∈ world.network.successors road ∧ drawn.network.has next = true := by
  obtain ⟨hsome, rfl⟩ := Prod.mk.inj hchoice
  have hmem := Draws.mem_of_choose hsome
  exact ⟨hmem, h.successor road next hmem⟩

/-- Handing on counts the car, one way or the other. -/
theorem stats_handOff (h : world.network.Regular) (road : RoadId) (car : Car) :
    (world.handOff road car).1.stats.handOffs + (world.handOff road car).1.stats.carsDiscarded =
      world.stats.handOffs + world.stats.carsDiscarded + 1 := by
  cases hchoice : world.chooseSuccessor road with
  | mk choice drawn =>
      have hdrawn : drawn.stats = world.stats := by
        obtain ⟨-, rfl⟩ := Prod.mk.inj hchoice
        rfl
      cases choice with
      | none =>
          simp only [handOff, hchoice, discard, hdrawn]
          omega
      | some next =>
          have hhas := (has_of_chooseSuccessor h hchoice).2
          simp only [handOff, hchoice, deliver, hhas, if_true, hdrawn]
          omega

/-- The next tick misses no road, and neither does a wave. -/
structure HandsOn (world : World) : Prop where
  /-- The chosen road exists wherever the tick hands on a car. -/
  found : ∀ before after road car, world.departures = before ++ (road, car) :: after →
    ∀ next drawn, (world.handingOn before).chooseSuccessor road = (some next, drawn) →
      next ∈ world.network.successors road ∧ drawn.network.has next = true
  /-- The car is counted there, as handed on or as discarded, and the tick goes on. -/
  counted : ∀ before after road car, world.departures = before ++ (road, car) :: after →
    let handed := ((world.handingOn before).handOff road car).1
    handed.stats.handOffs + handed.stats.carsDiscarded =
        (world.handingOn before).stats.handOffs + (world.handingOn before).stats.carsDiscarded + 1 ∧
      world.tick.1 = (handed.handOffAll after).1
  wave : ∀ missing, world.spawnWave.result ≠ .error (.unknownRoad missing)

theorem handsOn (h : world.network.Regular) : world.HandsOn := by
  refine ⟨?_, ?_, spawnEach_ne_unknownRoad h.entryPoint⟩
  · intro before after road car hsplit next drawn hchoice
    have hframe := world.frame_handingOn before
    rw [← Network.successors_eq_of_frame_eq hframe]
    exact has_of_chooseSuccessor (h.of_frame_eq hframe) hchoice
  · intro before after road car hsplit
    have hregular := h.of_frame_eq (world.frame_handingOn before)
    exact ⟨stats_handOff hregular road car, tick_eq_handingOn hsplit⟩

/-!
## Every run
-/

/-- **What is built stays.**  On a network made from a plan, in any world, after any run:
the network is the one that was built, its successor lists are the edges of the plan's
graph, and neither a hand-off nor a wave ever misses a road. -/
theorem frozen_run {declarations : List Declaration} {network : Network}
    (hbuilt : Network.ofDeclarations declarations = .ok network) {config : Config}
    {draws : Draws} {start : World} (hmade : create network config draws = .ok start)
    (commands : List Command) :
    Network.Frozen network (start.run commands).network ∧
      (∀ a b, (a, b) ∈ (Plan.ofDeclarations declarations).edges ↔
        b ∈ (start.run commands).network.successors a) ∧
      (start.run commands).HandsOn := by
  have hregular := (Network.regular_of_ofDeclarations hbuilt).1
  have hframe : (start.run commands).network.frame = network.frame := by
    rw [start.frame_run commands, eq_of_create hmade]
  refine ⟨hregular.frozen hframe, fun a b => ?_, handsOn (hregular.of_frame_eq hframe)⟩
  rw [Network.successors_eq_of_frame_eq hframe]
  exact Network.mem_edges_iff hbuilt a b

/-- Two cars have come to the fork and depart from there in the next tick. -/
theorem frozen_run_fork :
    let start : World := { fork with draws := .ofSeed 2 }
    let world := start.run [.spawnWave, .spawn 20 ⟨0⟩, .tick, .tick]
    create fork.network {} (.ofSeed 2) = .ok start ∧
      world.departures.map (fun departure => (departure.1, departure.2.id)) =
        [(⟨0⟩, ⟨0⟩), (⟨0⟩, ⟨1⟩)] ∧
      Network.Frozen fork.network world.network ∧ world.HandsOn := by
  have hmade := create_default fork.network (.ofSeed 2)
  obtain ⟨hfrozen, -, hhands⟩ :=
    frozen_run build_fork hmade [.spawnWave, .spawn 20 ⟨0⟩, .tick, .tick]
  exact ⟨hmade, by decide +kernel, hfrozen, hhands⟩

end World

end RoadTraffic
