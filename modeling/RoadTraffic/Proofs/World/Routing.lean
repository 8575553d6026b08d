import RoadTraffic.Proofs.World.Runs

/-!
# The two phases of a tick

A tick first advances every road by itself and only then hands on the cars that
have departed.  While it hands them on it changes queues, and queues are all that
handing on does not look at: which successors a car can choose from, and whether
the chosen road exists, is a matter of the frame.  So what becomes of the departed
cars can be said before any of them is delivered:

    Routed next draws departures deliveries discarded final

goes through the departures once, in their order, and draws from the random words
for each that has a choice.  `handOffAll_eq` says that handing on does just that, and
`tick_eq` puts the two phases together.
-/

namespace RoadTraffic

/-- The departed cars `departures` are `deliveries` and `discarded`, when the
successors are `next` and the random words go from `draws` to `final`.  Nothing is
drawn for a car at a dead end. -/
inductive Routed (next : RoadId → List RoadId) :
    (draws : Draws) → (departures deliveries discarded : List (RoadId × Car)) →
      (final : Draws) → Prop
  | done (draws : Draws) : Routed next draws [] [] [] draws
  | discarded {draws final : Draws} {road : RoadId} {car : Car}
      {departures deliveries discarded : List (RoadId × Car)}
      (hdeadEnd : next road = [])
      (rest : Routed next draws departures deliveries discarded final) :
      Routed next draws ((road, car) :: departures) deliveries ((road, car) :: discarded) final
  | delivered {draws drawn final : Draws} {road target : RoadId} {car : Car}
      {departures deliveries discarded : List (RoadId × Car)}
      (hchoice : draws.choose (next road) = (some target, drawn))
      (hmem : target ∈ next road)
      (rest : Routed next drawn departures deliveries discarded final) :
      Routed next draws ((road, car) :: departures) ((target, car) :: deliveries) discarded final

/-- What is delivered has departed, and goes to a successor. -/
theorem Routed.mem_deliveries {next : RoadId → List RoadId} {draws final : Draws}
    {departures deliveries discarded : List (RoadId × Car)}
    (h : Routed next draws departures deliveries discarded final) :
    ∀ delivery ∈ deliveries,
      ∃ road, delivery.1 ∈ next road ∧ (road, delivery.2) ∈ departures := by
  induction h with
  | done => exact List.forall_mem_nil _
  | discarded _ _ ih =>
      intro delivery hdelivery
      obtain ⟨road, hnext, hdeparted⟩ := ih delivery hdelivery
      exact ⟨road, hnext, List.mem_cons_of_mem _ hdeparted⟩
  | delivered _ hmem _ ih =>
      refine List.forall_mem_cons.mpr ⟨⟨_, hmem, List.mem_cons_self⟩, ?_⟩
      intro delivery hdelivery
      obtain ⟨road, hnext, hdeparted⟩ := ih delivery hdelivery
      exact ⟨road, hnext, List.mem_cons_of_mem _ hdeparted⟩

/-- From a list that is not empty something is chosen. -/
theorem Draws.choose_ne_nil {α : Type} (draws : Draws) {choices : List α} (h : choices ≠ []) :
    ∃ choice drawn, draws.choose choices = (some choice, drawn) ∧ choice ∈ choices := by
  cases choices with
  | nil => exact absurd rfl h
  | cons first others =>
      have hlt : (draws.below (first :: others).length).1 < (first :: others).length :=
        draws.below_lt (Nat.succ_pos _)
      refine ⟨(first :: others)[(draws.below (first :: others).length).1],
        (draws.below (first :: others).length).2, ?_, List.getElem_mem hlt⟩
      rw [← List.getElem?_eq_getElem hlt]
      rfl

namespace Network

/-- Deliveries in a regular network go to roads that exist, also once it has advanced. -/
theorem Regular.has_of_mem_deliveries {network : Network} (h : network.Regular) (d : Float32)
    {draws final : Draws} {departures deliveries discarded : List (RoadId × Car)}
    (hrouted : Routed network.successors draws departures deliveries discarded final) :
    ∀ delivery ∈ deliveries, (network.advance d).1.has delivery.1 = true := by
  intro delivery hdelivery
  obtain ⟨road, hnext, -⟩ := hrouted.mem_deliveries delivery hdelivery
  rw [has_eq_of_frame_eq (frame_advance d)]
  exact h.successor road delivery.1 hnext

/-- Lets cars enter the roads they are delivered to, one after the other. -/
def receiveAll (network : Network) (deliveries : List (RoadId × Car)) : Network :=
  deliveries.foldl (fun network delivery => network.receive delivery.1 delivery.2) network

theorem receiveAll_cons (network : Network) (target : RoadId) (car : Car)
    (deliveries : List (RoadId × Car)) :
    network.receiveAll ((target, car) :: deliveries) =
      (network.receive target car).receiveAll deliveries := rfl

theorem frame_receiveAll (network : Network) (deliveries : List (RoadId × Car)) :
    (network.receiveAll deliveries).frame = network.frame := by
  induction deliveries generalizing network with
  | nil => rfl
  | cons delivery deliveries ih => exact (ih _).trans (frame_receive _ _)

/-- In a regular network the road that receives is the one of that identity. -/
theorem Regular.roads_receive {network : Network} (h : network.Regular) (target : RoadId)
    (car : Car) : (network.receive target car).roads =
      network.roads.map fun road => if road.id = target then road.receive car else road := by
  refine List.ext_getElem? fun index => ?_
  simp only [receive, modifyRoad, List.getElem?_map, List.getElem?_modify]
  cases hroad : network.roads[index]? with
  | none => rfl
  | some road =>
      have hid := h.id index road hroad
      have hiff : target.index = index ↔ road.id = target := by
        rw [hid]
        exact ⟨fun heq => heq ▸ rfl, fun heq => heq ▸ rfl⟩
      simp only [Option.map_eq_map, Option.map_some, hiff]

/-- The cars that enter a road, at its start. -/
def arrivals (deliveries : List (RoadId × Car)) (road : Road) : List Car :=
  (deliveries.filter (·.1 = road.id)).map fun delivery =>
    { delivery.2 with progress := 0, pose := road.course.startPose }

/-- Deliveries to other roads do not disturb the order in which a road receives. -/
theorem Regular.roads_receiveAll {network : Network} (h : network.Regular)
    (deliveries : List (RoadId × Car)) : (network.receiveAll deliveries).roads =
      network.roads.map fun road =>
        { road with cars := road.cars ++ arrivals deliveries road } := by
  induction deliveries generalizing network with
  | nil =>
      have hsame : ∀ road : Road,
          { road with cars := road.cars ++ arrivals [] road } = road := by
        intro road
        rw [arrivals, List.filter_nil, List.map_nil, List.append_nil]
      simp only [hsame, List.map_id']
      rfl
  | cons delivery deliveries ih =>
      obtain ⟨target, car⟩ := delivery
      rw [receiveAll_cons, ih (h.of_frame_eq (frame_receive target car)), h.roads_receive,
        List.map_map]
      refine List.map_congr_left fun road _ => ?_
      by_cases hid : road.id = target
      · simp [Function.comp, hid, arrivals, Road.receive, Car.entering]
      · simp [Function.comp, hid, arrivals, Ne.symm hid]

theorem Regular.receiveAll_eq {network : Network} (h : network.Regular)
    (deliveries : List (RoadId × Car)) : network.receiveAll deliveries =
      { network with
        roads := network.roads.map fun road =>
          { road with cars := road.cars ++ arrivals deliveries road } } :=
  eq_of_fields (h.roads_receiveAll deliveries)
    (congrArg Prod.snd (frame_receiveAll network deliveries))

end Network

namespace World

/-- What handing on cars makes of a world. -/
def handedOn (world : World) (deliveries discarded : List (RoadId × Car)) (final : Draws) :
    World :=
  { world with
    network := world.network.receiveAll deliveries
    stats := { world.stats with
      handOffs := world.stats.handOffs + deliveries.length
      carsDiscarded := world.stats.carsDiscarded + discarded.length }
    draws := final }

/-- Handing on goes by what can be said beforehand. -/
theorem handOffAll_eq (world : World) (h : world.network.Regular)
    (departures : List (RoadId × Car)) :
    ∃ deliveries discarded final,
      Routed world.network.successors world.draws departures deliveries discarded final ∧
      world.handOffAll departures = (world.handedOn deliveries discarded final,
        discarded.map fun departure => .carLeft departure.2.id departure.1) := by
  induction departures generalizing world with
  | nil => exact ⟨[], [], world.draws, .done _, rfl⟩
  | cons departure departures ih =>
      obtain ⟨road, car⟩ := departure
      by_cases hnext : world.network.successors road = []
      · have hnone : world.draws.choose (world.network.successors road) = (none, world.draws) := by
          rw [hnext]
          rfl
        have hhand := world.handOff_of_choose_eq_none hnone car
        obtain ⟨deliveries, discarded, final, hrouted, hall⟩ := ih world.discard h
        refine ⟨deliveries, (road, car) :: discarded, final, .discarded hnext hrouted, ?_⟩
        have hsum : world.stats.carsDiscarded + 1 + discarded.length =
            world.stats.carsDiscarded + (discarded.length + 1) := by omega
        simp only [handOffAll, hhand, hall]
        simp [handedOn, discard, hsum]
      · obtain ⟨target, drawn, hchoice, hmem⟩ := world.draws.choose_ne_nil hnext
        have hhand := world.handOff_of_choose_eq_some hchoice car
        have hdeliver : ({ world with draws := drawn } : World).deliver target car =
            { world with
              network := world.network.receive target car
              stats := { world.stats with handOffs := world.stats.handOffs + 1 }
              draws := drawn } := if_pos (h.successor road target hmem)
        have hframe : (world.network.receive target car).frame = world.network.frame :=
          Network.frame_receive target car
        obtain ⟨deliveries, discarded, final, hrouted, hall⟩ := ih
          { world with
            network := world.network.receive target car
            stats := { world.stats with handOffs := world.stats.handOffs + 1 }
            draws := drawn } (h.of_frame_eq hframe)
        rw [Network.successors_eq_of_frame_eq hframe] at hrouted
        refine ⟨(target, car) :: deliveries, discarded, final,
          .delivered hchoice hmem hrouted, ?_⟩
        have hsum : world.stats.handOffs + 1 + deliveries.length =
            world.stats.handOffs + (deliveries.length + 1) := by omega
        simp only [handOffAll, hhand, hdeliver, hall]
        simp [handedOn, hsum, Network.receiveAll_cons]

/-- The cars that depart in the next tick, with the roads they leave, by road and then
in the order they leave. -/
def departures (world : World) : List (RoadId × Car) :=
  world.network.roads.flatMap fun road =>
    (road.advance world.config.followingDistance).2.map (road.id, ·)

theorem advanceRoads_eq (world : World) : world.advanceRoads =
    ({ world with
      network := (world.network.advance world.config.followingDistance).1
      stats := { world.stats with ticks := world.stats.ticks + 1 } }, world.departures) := by
  simp only [advanceRoads, Network.advance_eq, departures]

/-- A tick advances all roads, and then hands on the cars that depart by what could
be said of them before. -/
theorem tick_eq (world : World) (h : world.network.Regular) :
    ∃ deliveries discarded final,
      Routed world.network.successors world.draws world.departures deliveries discarded final ∧
      world.tick = (world.advanceRoads.1.handedOn deliveries discarded final,
        discarded.map fun departure => .carLeft departure.2.id departure.1) := by
  have hframe : world.advanceRoads.1.network.frame = world.network.frame := by
    rw [advanceRoads_eq]
    exact Network.frame_advance _
  have hdraws : world.advanceRoads.1.draws = world.draws := by rw [advanceRoads_eq]
  obtain ⟨deliveries, discarded, final, hrouted, hall⟩ :=
    handOffAll_eq world.advanceRoads.1 (h.of_frame_eq hframe) world.departures
  rw [Network.successors_eq_of_frame_eq hframe, hdraws] at hrouted
  refine ⟨deliveries, discarded, final, hrouted, ?_⟩
  rw [← hall, tick, advanceRoads_eq]

/-- **The two phases of a tick.**  After a tick every road has the cars that it keeps
of its own queue as it stood before the tick, and behind them those that are
delivered to it, in the order in which all departed cars are routed: by the
identity of the road they leave, and then as they left it.  Nothing else of the
network changes. -/
theorem tick_two_phases {world : World} (h : world.Reachable) :
    world.network.roads.map Road.id =
      (List.range world.network.roads.length).map RoadId.mk ∧
    ∃ deliveries discarded final,
      Routed world.network.successors world.draws world.departures deliveries discarded final ∧
      world.tick =
        ({ world with
          network := { world.network with
            roads := world.network.roads.map fun road =>
              { road with
                cars := (road.advance world.config.followingDistance).1.cars ++
                  Network.arrivals deliveries road } }
          stats := { world.stats with
            ticks := world.stats.ticks + 1
            handOffs := world.stats.handOffs + deliveries.length
            carsDiscarded := world.stats.carsDiscarded + discarded.length }
          draws := final },
        discarded.map fun departure => .carLeft departure.2.id departure.1) := by
  have hregular := h.regular
  refine ⟨?_, ?_⟩
  · refine List.ext_getElem (by simp) fun index hleft hright => ?_
    rw [List.length_map] at hleft
    simp [hregular.id index _ (List.getElem?_eq_getElem hleft)]
  · obtain ⟨deliveries, discarded, final, hrouted, htick⟩ := world.tick_eq hregular
    refine ⟨deliveries, discarded, final, hrouted, ?_⟩
    have hframe : (world.network.advance world.config.followingDistance).1.frame =
        world.network.frame := Network.frame_advance _
    rw [htick, advanceRoads_eq, handedOn, (hregular.of_frame_eq hframe).receiveAll_eq,
      Network.advance_eq, List.map_map]
    rfl

/-- A road that leads back to itself and into a second one, which leads back to the first,
and a road that is a dead end. -/
def junctionDeclarations : List Declaration :=
  [.road (.straight ⟨⟨0, 0⟩, ⟨100, 0⟩⟩) 50, .road (.straight ⟨⟨100, 100⟩, ⟨100, 0⟩⟩) 50,
    .road (.straight ⟨⟨0, 50⟩, ⟨100, 50⟩⟩) 50, .connect ⟨0⟩ [⟨0⟩, ⟨1⟩], .connect ⟨1⟩ [⟨0⟩],
    .entry ⟨0⟩, .entry ⟨2⟩]

/-- A fresh world of these roads. -/
def junction : World where
  network := (Plan.ofDeclarations junctionDeclarations).network
  config := {}
  draws := .ofSeed 3

theorem fresh_junction : junction.Fresh := fresh_of_isOk (by decide +kernel) _

/-- The world once cars have come up to the ends of all its roads. -/
def busyJunction : World :=
  junction.run
    [.spawn 20 ⟨2⟩, .spawn 20 ⟨0⟩, .spawn 30 ⟨0⟩, .spawn 20 ⟨1⟩, .tick, .spawn 20 ⟨0⟩, .tick]

/-- Two cars depart from the first road and one from each other road.  The first car goes to
the second road; the first road receives one of its own and then the one of the second
road, behind the car that has stayed, and the car at the dead end is discarded. -/
theorem tick_two_phases_junction :
    busyJunction.Reachable ∧
    busyJunction.departures.map (fun departure => (departure.1, departure.2.id)) =
      [(⟨0⟩, ⟨1⟩), (⟨0⟩, ⟨2⟩), (⟨1⟩, ⟨3⟩), (⟨2⟩, ⟨0⟩)] ∧
    busyJunction.tick.1.network.roads.map (fun road => road.cars.map Car.id) =
      [[⟨4⟩, ⟨2⟩, ⟨3⟩], [⟨1⟩], []] ∧
    busyJunction.tick.2 = [.carLeft ⟨0⟩ ⟨2⟩] ∧
    busyJunction.network.roads.map Road.id =
      (List.range busyJunction.network.roads.length).map RoadId.mk ∧
    ∃ deliveries discarded final,
      Routed busyJunction.network.successors busyJunction.draws busyJunction.departures
        deliveries discarded final ∧
      busyJunction.tick =
        ({ busyJunction with
          network := { busyJunction.network with
            roads := busyJunction.network.roads.map fun road =>
              { road with
                cars := (road.advance busyJunction.config.followingDistance).1.cars ++
                  Network.arrivals deliveries road } }
          stats := { busyJunction.stats with
            ticks := busyJunction.stats.ticks + 1
            handOffs := busyJunction.stats.handOffs + deliveries.length
            carsDiscarded := busyJunction.stats.carsDiscarded + discarded.length }
          draws := final },
        discarded.map fun departure => .carLeft departure.2.id departure.1) := by
  have h : busyJunction.Reachable := ⟨junction, _, fresh_junction, rfl⟩
  exact ⟨h, by decide +kernel, by decide +kernel, by decide +kernel, tick_two_phases h⟩

end World

end RoadTraffic
