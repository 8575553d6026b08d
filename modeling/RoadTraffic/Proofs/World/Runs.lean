import RoadTraffic.Proofs.Network.Frame
import RoadTraffic.World.Command

/-!
# Runs of a world

A world is *fresh* when it has just been made from a plan, with any settings that
pass their check and any random words.  What is proved of runs is proved of every
run from a fresh world.

Cars are created and handed on by changing a queue, the counters and the random words;
a reading of worlds that none of this changes is the same before and after
(`IgnoresCars`).  The frame of the network is such a reading, and no command changes it
(`frame_obey`), so at every point of a run the network is as regular as when it was built
(`Fresh.regular_run`).  The settings are another: only being configured changes them
(`config_obey`).
-/

namespace RoadTraffic.World

/-- A world that has just been made. -/
def Fresh (world : World) : Prop :=
  ∃ declarations network config draws, Network.ofDeclarations declarations = .ok network ∧
    create network config draws = .ok world

theorem eq_of_create {network : Network} {config : Config} {draws : Draws} {world : World}
    (h : create network config draws = .ok world) : world = { network, config, draws } := by
  unfold create at h
  cases hcheck : config.check with
  | error reason =>
      rw [hcheck] at h
      exact nomatch h
  | ok =>
      rw [hcheck] at h
      exact (Except.ok.inj h).symm

/-- A fresh world has a regular network, no cars, and nothing counted. -/
theorem Fresh.start {world : World} (h : world.Fresh) :
    world.network.Regular ∧ (∀ road ∈ world.network.roads, road.cars = []) ∧
      world.stats = {} ∧ world.nextCar = 0 := by
  obtain ⟨declarations, network, config, draws, hbuilt, hcreated⟩ := h
  obtain ⟨hregular, hempty⟩ := Network.regular_of_ofDeclarations hbuilt
  rw [eq_of_create hcreated]
  exact ⟨hregular, hempty, rfl, rfl⟩

/-!
## Creating a car
-/

variable (world : World)

/-- The checks of a car to be created, one after the other. -/
theorem checkSpawn_eq (length : Float32) (road : RoadId) : world.checkSpawn length road = (do
    (checkFinite length).mapError .length
    refuseIf (length ≤ 0) (.lengthNotPositive length)
    refuseIf (¬ world.network.has road = true) (.unknownRoad road)) := by
  have hlast : refuseIf (¬ world.network.has road = true) (SpawnError.unknownRoad road) =
      if world.network.has road = true then pure ()
      else throw (SpawnError.unknownRoad road) := ite_not ..
  rw [hlast]
  simp only [← ite_throw_bind]
  rfl

theorem checkSpawn_eq_ok_iff {length : Float32} {road : RoadId} :
    world.checkSpawn length road = .ok () ↔
      (length.isFinite = true ∧ 0 < length) ∧ world.network.has road = true := by
  rw [checkSpawn_eq]
  simp only [bind_eq_ok_iff, mapError_eq_ok_iff, refuseIf_eq_ok_iff, checkFinite_eq_ok,
    Classical.not_not, and_assoc]
  constructor
  · intro hok
    obtain ⟨hfinite, hpos, hhas⟩ := hok
    exact ⟨hfinite, (not_le_zero_iff hfinite).mp hpos, hhas⟩
  · intro hfit
    obtain ⟨hfinite, hpos, hhas⟩ := hfit
    exact ⟨hfinite, (not_le_zero_iff hfinite).mpr hpos, hhas⟩

/-!
## What cars leave alone
-/

theorem handOff_of_choose_eq_none {road : RoadId} {draws : Draws}
    (h : world.draws.choose (world.network.successors road) = (none, draws)) (car : Car) :
    world.handOff road car = (({ world with draws } : World).discard, [.carLeft car.id road]) := by
  simp only [handOff, chooseSuccessor, h]

theorem handOff_of_choose_eq_some {road next : RoadId} {draws : Draws}
    (h : world.draws.choose (world.network.successors road) = (some next, draws)) (car : Car) :
    world.handOff road car = (({ world with draws } : World).deliver next car, []) := by
  simp only [handOff, chooseSuccessor, h]

/-- A reading of worlds that stays what it is when a car is counted and when one enters a
road. -/
structure IgnoresCars {α : Type} (read : World → α) : Prop where
  counted : ∀ (world : World) stats nextCar draws,
    read { world with stats, nextCar, draws } = read world
  received : ∀ (world : World) road car,
    read { world with network := world.network.receive road car } = read world

namespace IgnoresCars

variable {α : Type} {read : World → α}

theorem spawn (h : IgnoresCars read) (world : World) (length : Float32) (road : RoadId) :
    read (world.spawn length road).world = read world := by
  unfold World.spawn
  split
  · rfl
  · exact (h.counted _ _ _ _).trans (h.received world road _)

theorem spawnEach (h : IgnoresCars read) (world : World) (length : Float32)
    (roads : List RoadId) : read (world.spawnEach length roads).world = read world := by
  induction roads generalizing world with
  | nil => rfl
  | cons road roads ih =>
      have hfirst := h.spawn world length road
      simp only [World.spawnEach]
      split
      · exact hfirst
      · exact (ih _).trans hfirst

theorem handOff (h : IgnoresCars read) (world : World) (road : RoadId) (car : Car) :
    read (world.handOff road car).1 = read world := by
  cases hchoose : world.draws.choose (world.network.successors road) with
  | mk choice draws =>
      cases choice with
      | none =>
          rw [world.handOff_of_choose_eq_none hchoose]
          exact h.counted world _ _ _
      | some next =>
          rw [world.handOff_of_choose_eq_some hchoose]
          unfold deliver
          split
          · exact (h.counted _ _ _ _).trans (h.received world next car)
          · exact h.counted world _ _ _

theorem handOffAll (h : IgnoresCars read) (world : World) (departures : List (RoadId × Car)) :
    read (world.handOffAll departures).1 = read world := by
  induction departures generalizing world with
  | nil => rfl
  | cons departure departures ih => exact (ih _).trans (h.handOff world departure.1 departure.2)

end IgnoresCars

theorem ignoresCars_frame : IgnoresCars fun world => world.network.frame :=
  ⟨fun _ _ _ _ => rfl, fun _ road car => Network.frame_receive road car⟩

theorem ignoresCars_config : IgnoresCars fun world => world.config :=
  ⟨fun _ _ _ _ => rfl, fun _ _ _ => rfl⟩

/-!
## The frame of the network
-/

theorem frame_handOffAll (departures : List (RoadId × Car)) :
    (world.handOffAll departures).1.network.frame = world.network.frame :=
  ignoresCars_frame.handOffAll world departures

theorem frame_setSignal (road : RoadId) (signal : Signal) :
    (world.setSignal road signal).world.network.frame = world.network.frame := by
  unfold setSignal
  split
  · rfl
  · next hset => exact Network.frame_setSignal hset

theorem events_setSignal (road : RoadId) (signal : Signal) :
    (world.setSignal road signal).events = [] := by
  unfold setSignal
  split <;> rfl

theorem frame_tick : world.tick.1.network.frame = world.network.frame :=
  (frame_handOffAll _ _).trans (Network.frame_advance _)

/-- **No command changes the frame of the network.** -/
theorem frame_obey (command : Command) :
    (world.obey command).world.network.frame = world.network.frame := by
  cases command with
  | tick => exact world.frame_tick
  | spawn length road => exact ignoresCars_frame.spawn world length road
  | spawnWave => exact ignoresCars_frame.spawnEach world _ _
  | toggleSignals => exact Network.frame_toggleSignals
  | setSignal road signal => exact world.frame_setSignal road signal
  | configure config => rfl
  | network command =>
      cases command with
      | toggleSignals => exact Network.frame_toggleSignals
      | setSignal road signal => exact world.frame_setSignal road signal

theorem frame_run (commands : List Command) :
    (world.run commands).network.frame = world.network.frame := by
  induction commands generalizing world with
  | nil => rfl
  | cons command commands ih => exact (ih _).trans (world.frame_obey command)

/-!
## The settings
-/

theorem config_setSignal (road : RoadId) (signal : Signal) :
    (world.setSignal road signal).world.config = world.config := by
  unfold setSignal
  split <;> rfl

/-- Only being configured changes the settings of a world. -/
theorem config_obey {command : Command} (h : ∀ config, command ≠ .configure config) :
    (world.obey command).world.config = world.config := by
  cases command with
  | tick => exact ignoresCars_config.handOffAll world.advanceRoads.1 _
  | spawn length road => exact ignoresCars_config.spawn world length road
  | spawnWave => exact ignoresCars_config.spawnEach world _ _
  | toggleSignals => rfl
  | setSignal road signal => exact world.config_setSignal road signal
  | configure config => exact absurd rfl (h config)
  | network command =>
      cases command with
      | toggleSignals => rfl
      | setSignal road signal => exact world.config_setSignal road signal

theorem config_run {commands : List Command} (h : ∀ config, .configure config ∉ commands) :
    (world.run commands).config = world.config := by
  induction commands generalizing world with
  | nil => rfl
  | cons command commands ih =>
      have hfirst := world.config_obey fun config heq => h config (heq ▸ List.mem_cons_self)
      exact (ih _ fun config hmem => h config (List.mem_cons_of_mem command hmem)).trans hfirst

/-!
## Every point of a run
-/

variable {world}

theorem Fresh.regular_run (h : world.Fresh) (commands : List Command) :
    (world.run commands).network.Regular :=
  h.start.1.of_frame_eq (world.frame_run commands)

/-- A world at any point of a run from a fresh one. -/
def Reachable (world : World) : Prop :=
  ∃ (start : World) (commands : List Command), start.Fresh ∧ world = start.run commands

theorem Reachable.regular (h : world.Reachable) : world.network.Regular := by
  obtain ⟨start, commands, hfresh, rfl⟩ := h
  exact hfresh.regular_run commands

theorem Reachable.run (h : world.Reachable) (commands : List Command) :
    (world.run commands).Reachable := by
  obtain ⟨start, before, hfresh, rfl⟩ := h
  exact ⟨start, before ++ commands, hfresh, (start.run_append before commands).symm⟩

/-!
## Worlds made from declarations
-/

/-- The settings a world has when none are asked for pass their check. -/
theorem check_default : ({} : Config).check = .ok () := eq_ok_of_isOk (by decide +kernel)

theorem create_default (network : Network) (draws : Draws) :
    create network {} draws = .ok { network, config := {}, draws } := by
  rw [create, check_default]
  rfl

theorem build_of_isOk {declarations : List Declaration}
    (h : (Plan.ofDeclarations declarations).check.isOk = true) :
    Network.ofDeclarations declarations = .ok (Plan.ofDeclarations declarations).network := by
  rw [Network.ofDeclarations_eq, eq_ok_of_isOk h]
  rfl

theorem fresh_of_isOk {declarations : List Declaration}
    (h : (Plan.ofDeclarations declarations).check.isOk = true) (draws : Draws) :
    Fresh { network := (Plan.ofDeclarations declarations).network, config := {}, draws } :=
  ⟨_, _, _, _, build_of_isOk h, create_default _ draws⟩

/-- A single straight that leads back to itself. -/
def loopDeclarations : List Declaration :=
  [.road (.straight ⟨⟨0, 0⟩, ⟨100, 0⟩⟩) 5, .connect ⟨0⟩ [⟨0⟩], .entry ⟨0⟩]

/-- A fresh world of a single road. -/
def loop : World where
  network := (Plan.ofDeclarations loopDeclarations).network
  config := {}
  draws := .ofSeed 0

theorem fresh_loop : loop.Fresh := fresh_of_isOk (by decide +kernel) _

/-- A straight that forks into an arc, which leads back to it, and a dead end. -/
def forkDeclarations : List Declaration :=
  [.road (.straight ⟨⟨0, 0⟩, ⟨100, 0⟩⟩) 50, .road (.arc ⟨⟨100, 20⟩, 20, 0, 1, false⟩) 10,
    .road (.straight ⟨⟨100, 0⟩, ⟨200, 0⟩⟩) 40, .connect ⟨0⟩ [⟨1⟩, ⟨2⟩], .connect ⟨1⟩ [⟨0⟩],
    .entry ⟨0⟩]

/-- A fresh world with a fork. -/
def fork : World where
  network := (Plan.ofDeclarations forkDeclarations).network
  config := {}
  draws := .ofSeed 0

theorem build_fork : Network.ofDeclarations forkDeclarations = .ok fork.network :=
  build_of_isOk (by decide +kernel)

/-- The random words of a fresh world are free. -/
theorem fresh_fork_draws (draws : Draws) : ({ fork with draws } : World).Fresh :=
  ⟨_, _, _, _, build_fork, create_default _ draws⟩

theorem fresh_fork : fork.Fresh := fresh_fork_draws _

end RoadTraffic.World
