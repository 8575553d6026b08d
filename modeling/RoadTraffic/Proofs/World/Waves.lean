import RoadTraffic.Proofs.World.Runs

/-!
# Waves of new cars

A wave creates its cars one after the other and stops at the first that is refused;
nothing is taken back.  Where all its roads exist this makes no difference: the length
is the same for every car, so either the first car is refused or none is.

* A wave of a length that fits creates a car on each of its roads, and leaves the world
  that spawning them one by one leaves (`spawnEach_of_fits`).
* A wave of any other length leaves the world as it was (`spawnEach_of_not_fits`).
* That a road is unknown is never the reason (`spawnEach_ne_unknownRoad`).
-/

namespace RoadTraffic

/-- Is a car of that length fit for the road? -/
def FitLength (length : Float32) : Prop := length.isFinite = true ∧ 0 < length

instance (length : Float32) : Decidable (FitLength length) :=
  inferInstanceAs (Decidable (_ ∧ _))

namespace World

variable {world : World} {length : Float32} {road : RoadId} {roads : List RoadId}

theorem spawn_of_check (h : world.checkSpawn length road = .ok ()) :
    world.spawn length road = ⟨world.addCar length road,
      [.carSpawned ⟨world.nextCar⟩ length road], .ok ⟨world.nextCar⟩⟩ := by
  simp only [spawn, h]

theorem spawn_of_refused {reason : SpawnError} (h : world.checkSpawn length road = .error reason) :
    world.spawn length road = ⟨world, [], .error reason⟩ := by
  simp only [spawn, h]

/-- A car that is created changes no road's being there. -/
theorem has_addCar (length : Float32) (road other : RoadId) :
    (world.addCar length road).network.has other = world.network.has other :=
  Network.has_eq_of_frame_eq (Network.frame_receive road _) other

theorem forall_has_addCar (h : ∀ other ∈ roads, world.network.has other = true)
    (length : Float32) (road : RoadId) :
    ∀ other ∈ roads, (world.addCar length road).network.has other = true :=
  fun other hother => (has_addCar length road other).trans (h other hother)

/-- A wave that begins with a car which is refused goes no further. -/
theorem spawnEach_of_refused {reason : SpawnError}
    (h : world.checkSpawn length road = .error reason) :
    world.spawnEach length (road :: roads) = ⟨world, [], .error reason⟩ := by
  simp only [spawnEach, spawn_of_refused h]

/-- **A wave that fits.**  It creates a car on each road, numbered on from the counter, and
is then what spawning the cars one by one is. -/
theorem spawnEach_of_fits (hfits : FitLength length)
    (hroads : ∀ road ∈ roads, world.network.has road = true) :
    (world.spawnEach length roads).result =
        .ok ((List.range' world.nextCar roads.length).map CarId.mk) ∧
      (world.spawnEach length roads).world = world.run (roads.map (.spawn length)) ∧
      (world.spawnEach length roads).world.stats =
        { world.stats with carsSpawned := world.stats.carsSpawned + roads.length } := by
  induction roads generalizing world with
  | nil => exact ⟨rfl, rfl, rfl⟩
  | cons road roads ih =>
      obtain ⟨hroad, hothers⟩ := List.forall_mem_cons.mp hroads
      have hspawn := spawn_of_check (world.checkSpawn_eq_ok_iff.mpr ⟨hfits, hroad⟩)
      have hstill := forall_has_addCar hothers length road
      obtain ⟨hresult, hworld, hstats⟩ := ih hstill
      have hobey : (world.obey (.spawn length road)).world = world.addCar length road :=
        congrArg Outcome.world hspawn
      refine ⟨?_, ?_, ?_⟩
      · simp only [spawnEach, hspawn, hresult]
        rfl
      · simp only [spawnEach, hspawn, hworld, List.map_cons, run_cons, hobey]
      · have hcount : world.stats.carsSpawned + 1 + roads.length =
            world.stats.carsSpawned + (roads.length + 1) := by omega
        simp only [spawnEach, hspawn, hstats, List.length_cons]
        simp only [addCar, hcount]

/-- A length that does not fit is the first thing to be refused. -/
theorem checkSpawn_of_not_fits (h : ¬ FitLength length) :
    ∃ reason, world.checkSpawn length road = .error reason := by
  cases hcheck : world.checkSpawn length road with
  | error reason => exact ⟨reason, rfl⟩
  | ok => exact absurd (world.checkSpawn_eq_ok_iff.mp hcheck).1 h

theorem spawnEach_of_not_fits (h : ¬ FitLength length) (hne : roads ≠ []) :
    ∃ reason, world.spawnEach length roads = ⟨world, [], .error reason⟩ := by
  obtain ⟨first, others, rfl⟩ := List.exists_cons_of_ne_nil hne
  obtain ⟨reason, hcheck⟩ := @checkSpawn_of_not_fits world _ first h
  exact ⟨reason, spawnEach_of_refused hcheck⟩

/-- Only a road that does not exist is called unknown. -/
theorem checkSpawn_ne_unknownRoad (h : world.network.has road = true) (missing : RoadId) :
    world.checkSpawn length road ≠ .error (.unknownRoad missing) := by
  rw [checkSpawn_eq]
  intro herror
  simp only [bind_eq_error_iff, mapError_eq_error_iff, refuseIf_eq_error_iff] at herror
  rcases herror with ⟨_, -, hreason⟩ | ⟨-, ⟨-, hreason⟩ | ⟨-, hmissing, -⟩⟩
  · cases hreason
  · cases hreason
  · exact hmissing h

/-- A wave on roads that exist is never refused for an unknown road. -/
theorem spawnEach_ne_unknownRoad (hroads : ∀ road ∈ roads, world.network.has road = true)
    (missing : RoadId) :
    (world.spawnEach length roads).result ≠ .error (.unknownRoad missing) := by
  by_cases hfits : FitLength length
  · rw [(spawnEach_of_fits hfits hroads).1]
    exact nofun
  · cases roads with
    | nil => exact nofun
    | cons first others =>
        obtain ⟨reason, hcheck⟩ := @checkSpawn_of_not_fits world _ first hfits
        rw [spawnEach_of_refused hcheck]
        intro hreason
        have hfirst := hroads first List.mem_cons_self
        refine checkSpawn_ne_unknownRoad hfirst missing (hcheck.trans ?_)
        exact congrArg Except.error (Except.error.inj hreason)

end World

end RoadTraffic
