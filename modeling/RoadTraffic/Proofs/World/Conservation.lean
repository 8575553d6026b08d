import RoadTraffic.Proofs.Road.Parting
import RoadTraffic.Proofs.World.Routing

/-!
# Cars are conserved

Two events change which cars there are: a car is spawned, and a car leaves at a
dead end.  `Conserves before events after` is what holds of any stretch of a run:
with their identities and lengths,

    cars after, and cars that left  =  cars before, and cars that were spawned

as a matter of how often each occurs, spawned cars are numbered on from the
counter, and the counters count the events.  Every command conserves
(`conserves_obey`), so every run does (`conserves_run`), and the rest is counting.
-/

namespace RoadTraffic

/-- The identity and the length of a car, if the event is that it is spawned. -/
def Event.spawned? : Event → Option (CarId × Float32)
  | .carSpawned car length _ => some (car, length)
  | _ => none

/-- The identity of a car, if the event is that it leaves. -/
def Event.left? : Event → Option CarId
  | .carLeft car _ => some car
  | _ => none

/-!
## Queues
-/

namespace Network

variable {network : Network}

theorem cars_modifyRoad (id : RoadId) {f : Road → Road} (hf : ∀ road, (f road).cars = road.cars) :
    (network.modifyRoad id f).cars = network.cars := by
  unfold cars modifyRoad
  generalize network.roads = roads
  generalize id.index = index
  induction roads generalizing index with
  | nil => rw [List.modify_nil]
  | cons road roads ih =>
      cases index with
      | zero => rw [List.modify_zero_cons, List.flatMap_cons, List.flatMap_cons, hf]
      | succ index => rw [List.modify_succ_cons, List.flatMap_cons, List.flatMap_cons, ih]

theorem cars_map {f : Road → Road} (hf : ∀ road, (f road).cars = road.cars) :
    ({ network with roads := network.roads.map f } : Network).cars = network.cars := by
  simp only [cars, List.flatMap_map, hf]

/-- A road that exists receives one car more. -/
theorem cars_receive_perm {id : RoadId} (h : network.has id = true) (car : Car) :
    ((network.receive id car).cars.map Car.tag).Perm (network.cars.map Car.tag ++ [car.tag]) := by
  have hindex : id.index < network.roads.length := of_decide_eq_true h
  unfold cars receive modifyRoad
  generalize network.roads = roads at hindex ⊢
  generalize id.index = index at hindex ⊢
  induction roads generalizing index with
  | nil => exact absurd hindex (Nat.not_lt_zero _)
  | cons road roads ih =>
      cases index with
      | zero =>
          simp only [List.modify_zero_cons, List.flatMap_cons, Road.receive, List.map_append,
            List.append_assoc]
          exact (List.Perm.append_left _ List.perm_append_comm)
      | succ index =>
          have hrest := ih index (Nat.lt_of_succ_lt_succ hindex)
          simp only [List.modify_succ_cons, List.flatMap_cons, List.map_append,
            List.append_assoc]
          exact hrest.append_left _

theorem cars_receiveAll_perm {deliveries : List (RoadId × Car)}
    (h : ∀ delivery ∈ deliveries, network.has delivery.1 = true) :
    ((network.receiveAll deliveries).cars.map Car.tag).Perm
      (network.cars.map Car.tag ++ deliveries.map (·.2.tag)) := by
  induction deliveries generalizing network with
  | nil =>
      rw [List.map_nil, List.append_nil]
      exact List.Perm.refl _
  | cons delivery deliveries ih =>
      obtain ⟨hfirst, hothers⟩ := List.forall_mem_cons.mp h
      have hhas : ∀ other ∈ deliveries,
          (network.receive delivery.1 delivery.2).has other.1 = true := by
        intro other hother
        rw [has_eq_of_frame_eq (frame_receive delivery.1 delivery.2)]
        exact hothers other hother
      refine (ih hhas).trans ?_
      refine ((cars_receive_perm hfirst delivery.2).append_right _).trans ?_
      rw [List.append_assoc]
      exact List.Perm.refl _

/-- Advancing keeps the cars that do not depart. -/
theorem cars_advance_perm (d : Float32) :
    (((network.advance d).1.cars.map Car.tag) ++ (network.advance d).2.map (·.2.tag)).Perm
      (network.cars.map Car.tag) := by
  rw [advance_eq]
  unfold cars
  generalize network.roads = roads
  induction roads with
  | nil => exact List.Perm.refl _
  | cons road roads ih =>
      have hroad : ((road.advance d).1.cars.map Car.tag ++
          ((road.advance d).2.map (road.id, ·)).map (·.2.tag)).Perm (road.cars.map Car.tag) := by
        rw [List.map_map]
        have hpart := road.part_perm d d road.cars
        rw [← Road.partQueue_eq_part] at hpart
        exact hpart
      simp only [List.map_cons, List.flatMap_cons, List.map_append] at ih ⊢
      refine List.Perm.trans ?_ (hroad.append ih)
      simp only [List.append_assoc]
      refine List.Perm.append_left _ ?_
      simp only [← List.append_assoc]
      exact List.Perm.append_right _ List.perm_append_comm

end Network

/-- Every departed car is delivered or discarded. -/
theorem Routed.perm {next : RoadId → List RoadId} {draws final : Draws}
    {departures deliveries discarded : List (RoadId × Car)}
    (h : Routed next draws departures deliveries discarded final) :
    (deliveries.map (·.2.tag) ++ discarded.map (·.2.tag)).Perm (departures.map (·.2.tag)) := by
  induction h with
  | done => exact List.Perm.refl _
  | discarded _ _ ih => exact List.perm_middle.trans (ih.cons _)
  | delivered _ _ _ ih => exact ih.cons _

namespace World

/-!
## One command
-/

/-- The cars before and after some events, and the counters. -/
structure Conserves (before : World) (events : List Event) (after : World) : Prop where
  cars : ∃ gone, gone.map Prod.fst = events.filterMap Event.left? ∧
    (after.cars.map Car.tag ++ gone).Perm
      (before.cars.map Car.tag ++ events.filterMap Event.spawned?)
  ids : (events.filterMap Event.spawned?).map Prod.fst =
    (List.range' before.nextCar (events.filterMap Event.spawned?).length).map CarId.mk
  nextCar : after.nextCar = before.nextCar + (events.filterMap Event.spawned?).length
  carsSpawned : after.stats.carsSpawned =
    before.stats.carsSpawned + (events.filterMap Event.spawned?).length
  carsDiscarded : after.stats.carsDiscarded =
    before.stats.carsDiscarded + (events.filterMap Event.left?).length

namespace Conserves

variable {before between after : World} {first second events : List Event}

/-- Nothing that matters has happened. -/
theorem of_same (hcars : after.cars = before.cars) (hnext : after.nextCar = before.nextCar)
    (hspawned : after.stats.carsSpawned = before.stats.carsSpawned)
    (hdiscarded : after.stats.carsDiscarded = before.stats.carsDiscarded)
    (hevents : events.filterMap Event.spawned? = [] ∧ events.filterMap Event.left? = []) :
    Conserves before events after := by
  obtain ⟨hnone, hstayed⟩ := hevents
  refine ⟨⟨[], hstayed.symm, ?_⟩, ?_, ?_, ?_, ?_⟩
  · rw [hcars, hnone]
  · rw [hnone]
    rfl
  · rw [hnone, hnext]
    rfl
  · rw [hnone, hspawned]
    rfl
  · rw [hstayed, hdiscarded]
    rfl

theorem trans (h : Conserves before first between) (h' : Conserves between second after) :
    Conserves before (first ++ second) after := by
  obtain ⟨gone, hgone, hperm⟩ := h.cars
  obtain ⟨later, hlater, hperm'⟩ := h'.cars
  refine ⟨⟨gone ++ later, ?_, ?_⟩, ?_, ?_, ?_, ?_⟩
  · rw [List.map_append, List.filterMap_append, hgone, hlater]
  · rw [List.filterMap_append]
    have hswap : (after.cars.map Car.tag ++ (gone ++ later)).Perm
        (after.cars.map Car.tag ++ later ++ gone) := by
      rw [List.append_assoc]
      exact List.Perm.append_left _ List.perm_append_comm
    refine hswap.trans ((hperm'.append_right gone).trans ?_)
    have hback : (between.cars.map Car.tag ++ second.filterMap Event.spawned? ++ gone).Perm
        (between.cars.map Car.tag ++ gone ++ second.filterMap Event.spawned?) := by
      rw [List.append_assoc, List.append_assoc]
      exact List.Perm.append_left _ List.perm_append_comm
    exact hback.trans ((hperm.append_right _).trans (.of_eq (List.append_assoc ..)))
  · rw [List.filterMap_append, List.map_append, List.length_append, h.ids, h'.ids, h.nextCar,
      List.range'_append_1.symm, List.map_append]
  · rw [h'.nextCar, h.nextCar, List.filterMap_append, List.length_append, Nat.add_assoc]
  · rw [h'.carsSpawned, h.carsSpawned, List.filterMap_append, List.length_append, Nat.add_assoc]
  · rw [h'.carsDiscarded, h.carsDiscarded, List.filterMap_append, List.length_append,
      Nat.add_assoc]

end Conserves

variable (world : World)

theorem conserves_spawn (length : Float32) (road : RoadId) :
    Conserves world (world.spawn length road).events (world.spawn length road).world := by
  unfold spawn
  cases hcheck : world.checkSpawn length road with
  | error reason => exact .of_same rfl rfl rfl rfl ⟨rfl, rfl⟩
  | ok =>
      obtain ⟨-, hhas⟩ := world.checkSpawn_eq_ok_iff.mp hcheck
      refine ⟨⟨[], rfl, ?_⟩, rfl, rfl, rfl, rfl⟩
      rw [List.append_nil]
      exact Network.cars_receive_perm hhas _

theorem conserves_spawnEach (length : Float32) (roads : List RoadId) :
    Conserves world (world.spawnEach length roads).events
      (world.spawnEach length roads).world := by
  induction roads generalizing world with
  | nil => exact .of_same rfl rfl rfl rfl ⟨rfl, rfl⟩
  | cons road roads ih =>
      have hfirst := world.conserves_spawn length road
      simp only [spawnEach]
      split
      · exact hfirst
      · exact hfirst.trans (ih _)

theorem conserves_setSignal (road : RoadId) (signal : Signal) :
    Conserves world (world.setSignal road signal).events (world.setSignal road signal).world := by
  unfold setSignal Network.setSignal
  split
  · exact .of_same rfl rfl rfl rfl ⟨rfl, rfl⟩
  · next network hset =>
      split at hset
      · rw [← Except.ok.inj hset]
        exact .of_same (Network.cars_modifyRoad road fun _ => rfl) rfl rfl rfl ⟨rfl, rfl⟩
      · exact nomatch hset

/-- A tick lets cars leave and spawns none. -/
theorem conserves_tick (h : world.network.Regular) :
    Conserves world world.tick.2 world.tick.1 := by
  obtain ⟨deliveries, discarded, final, hrouted, htick⟩ := world.tick_eq h
  have hleft : (discarded.map fun departure =>
      Event.carLeft departure.2.id departure.1).filterMap Event.left? =
        discarded.map (·.2.id) := by
    rw [List.filterMap_map]
    exact congrFun List.filterMap_eq_map discarded
  have hspawned : (discarded.map fun departure =>
      Event.carLeft departure.2.id departure.1).filterMap Event.spawned? = [] := by
    rw [List.filterMap_map, List.filterMap_eq_nil_iff]
    intro departure _
    rfl
  have hhas := h.has_of_mem_deliveries world.config.followingDistance hrouted
  have hadvance := world.network.cars_advance_perm world.config.followingDistance
  rw [htick, advanceRoads_eq]
  refine ⟨⟨discarded.map (·.2.tag), ?_, ?_⟩, ?_, ?_, ?_, ?_⟩
  · rw [hleft, List.map_map]
    rfl
  · rw [hspawned, List.append_nil]
    refine ((Network.cars_receiveAll_perm hhas).append_right _).trans ?_
    rw [List.append_assoc]
    refine (hrouted.perm.append_left _).trans ?_
    have hdepartures : world.departures =
        (world.network.advance world.config.followingDistance).2 := by
      rw [Network.advance_eq]
      rfl
    rw [hdepartures]
    exact hadvance
  · rw [hspawned]
    rfl
  · rw [hspawned]
    rfl
  · rw [hspawned]
    rfl
  · rw [hleft, List.length_map]
    rfl

/-- **Every command conserves.** -/
theorem conserves_obey (h : world.network.Regular) (command : Command) :
    Conserves world (world.obey command).events (world.obey command).world := by
  have htoggle : world.network.toggleSignals.cars = world.network.cars :=
    Network.cars_map fun _ => rfl
  cases command with
  | tick => exact world.conserves_tick h
  | spawn length road => exact world.conserves_spawn length road
  | spawnWave => exact world.conserves_spawnEach _ _
  | toggleSignals => exact .of_same htoggle rfl rfl rfl ⟨rfl, rfl⟩
  | setSignal road signal => exact world.conserves_setSignal road signal
  | configure config => exact .of_same rfl rfl rfl rfl ⟨rfl, rfl⟩
  | network command =>
      cases command with
      | toggleSignals => exact .of_same htoggle rfl rfl rfl ⟨rfl, rfl⟩
      | setSignal road signal => exact world.conserves_setSignal road signal

/-!
## A whole run
-/

/-- The events of a run, in order. -/
def history (world : World) : List Command → List Event
  | [] => []
  | command :: commands =>
    (world.obey command).events ++ (world.obey command).world.history commands

variable {world}

theorem conserves_run (h : world.network.Regular) (commands : List Command) :
    Conserves world (world.history commands) (world.run commands) := by
  induction commands generalizing world with
  | nil => exact .of_same rfl rfl rfl rfl ⟨rfl, rfl⟩
  | cons command commands ih =>
      have hregular := h.of_frame_eq (world.frame_obey command)
      exact (world.conserves_obey h command).trans (ih hregular)

end World

end RoadTraffic
