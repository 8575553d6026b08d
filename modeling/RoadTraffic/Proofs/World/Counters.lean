import RoadTraffic.Proofs.World.Departures
import RoadTraffic.Proofs.World.Waves

/-!
# The counters are an audit of the run

A world keeps five counters.  Each of them can be counted again from the outside: from
the commands, from what they replied, and from the cars that departed.

    ticks           +=  ticks commanded
    cars spawned    +=  cars created, by the replies
    hand-offs       +=  departures from roads that others follow
    cars discarded  +=  departures from dead ends
    toggles         +=  toggles commanded of the world

`World.tally` counts again.  One command adds to the counters what its tally says
(`stats_obey`), whether it succeeds or fails, and so does a run (`stats_run`).  Toggles
commanded of the network are not in the tally, and not in the counters.
-/

namespace RoadTraffic

/-- The number of cars created, by the reply to a command. -/
def Reply.created : Reply → Nat
  | .spawned (.ok _) => 1
  | .wave (.ok cars) => cars.length
  | _ => 0

/-- Is a single car to be created? -/
def Command.isSpawn : Command → Bool
  | .spawn _ _ => true
  | _ => false

namespace Stats

/-- Two counts taken together. -/
instance : Add Stats where
  add a b :=
    { ticks := a.ticks + b.ticks
      carsSpawned := a.carsSpawned + b.carsSpawned
      handOffs := a.handOffs + b.handOffs
      carsDiscarded := a.carsDiscarded + b.carsDiscarded
      signalToggles := a.signalToggles + b.signalToggles }

/-- No counter is greater. -/
instance : LE Stats where
  le a b := a.ticks ≤ b.ticks ∧ a.carsSpawned ≤ b.carsSpawned ∧ a.handOffs ≤ b.handOffs ∧
    a.carsDiscarded ≤ b.carsDiscarded ∧ a.signalToggles ≤ b.signalToggles

theorem add_assoc (a b c : Stats) : a + b + c = a + (b + c) :=
  (Stats.mk.injEq ..).mpr ⟨Nat.add_assoc .., Nat.add_assoc .., Nat.add_assoc ..,
    Nat.add_assoc .., Nat.add_assoc ..⟩

theorem le_add (a b : Stats) : a ≤ a + b :=
  ⟨Nat.le_add_right .., Nat.le_add_right .., Nat.le_add_right .., Nat.le_add_right ..,
    Nat.le_add_right ..⟩

theorem zero_add (a : Stats) : {} + a = a :=
  (Stats.mk.injEq ..).mpr ⟨Nat.zero_add _, Nat.zero_add _, Nat.zero_add _, Nat.zero_add _,
    Nat.zero_add _⟩

end Stats

namespace World

/-- The replies to the commands of a run, in order. -/
def replies (world : World) : List Command → List Reply
  | [] => []
  | command :: commands =>
    (world.obey command).result :: (world.obey command).world.replies commands

/-- What is to be counted in a run. -/
def tally (world : World) (commands : List Command) : Stats where
  ticks := commands.count .tick
  carsSpawned := ((world.replies commands).map Reply.created).sum
  handOffs := (world.departed commands).countP fun departure =>
    !(world.network.successors departure.1).isEmpty
  carsDiscarded := (world.departed commands).countP fun departure =>
    (world.network.successors departure.1).isEmpty
  signalToggles := commands.count .toggleSignals

variable {world : World}

/-!
## One command
-/

/-- Successors do not change, so a run can be counted command by command. -/
theorem tally_cons (world : World) (command : Command) (commands : List Command) :
    world.tally (command :: commands) =
      world.tally [command] + (world.obey command).world.tally commands := by
  have hsuccessors := Network.successors_eq_of_frame_eq (world.frame_obey command)
  have hcommands : command :: commands = [command] ++ commands := rfl
  refine (Stats.mk.injEq ..).mpr ⟨?_, ?_, ?_, ?_, ?_⟩
  · rw [hcommands, List.count_append]
    rfl
  · simp only [tally, replies, List.map_cons, List.map_nil, List.sum_cons, List.sum_nil,
      Nat.add_zero]
  · simp only [tally, departed, List.append_nil, List.countP_append, hsuccessors]
  · simp only [tally, departed, List.append_nil, List.countP_append, hsuccessors]
  · rw [hcommands, List.count_append]
    rfl

/-- A single car is counted if it is created. -/
theorem stats_spawn (world : World) (length : Float32) (road : RoadId) :
    (world.spawn length road).world.stats = { world.stats with
      carsSpawned := world.stats.carsSpawned +
        (Reply.spawned (world.spawn length road).result).created } := by
  cases hcheck : world.checkSpawn length road with
  | error reason =>
      rw [spawn_of_refused hcheck]
      rfl
  | ok =>
      rw [spawn_of_check hcheck]
      rfl

/-- On roads that exist a wave that fails has created no car before. -/
theorem stats_spawnEach {length : Float32} {roads : List RoadId}
    (hroads : ∀ road ∈ roads, world.network.has road = true) :
    (world.spawnEach length roads).world.stats = { world.stats with
      carsSpawned := world.stats.carsSpawned +
        (Reply.wave (world.spawnEach length roads).result).created } := by
  by_cases hfits : FitLength length
  · obtain ⟨hresult, -, hstats⟩ := spawnEach_of_fits hfits hroads
    rw [hstats, hresult]
    simp only [Reply.created, List.length_map, List.length_range']
  · cases roads with
    | nil => rfl
    | cons first others =>
        obtain ⟨reason, hwave⟩ :=
          @spawnEach_of_not_fits world _ _ hfits (List.cons_ne_nil first others)
        rw [hwave]
        rfl

theorem stats_setSignal (world : World) (road : RoadId) (signal : Signal) :
    (world.setSignal road signal).world.stats = world.stats := by
  unfold setSignal
  split <;> rfl

theorem stats_tick (h : world.network.Regular) : world.tick.1.stats = { world.stats with
    ticks := world.stats.ticks + 1
    handOffs := world.stats.handOffs + world.departures.countP fun departure =>
      !(world.network.successors departure.1).isEmpty
    carsDiscarded := world.stats.carsDiscarded + world.departures.countP fun departure =>
      (world.network.successors departure.1).isEmpty } := by
  obtain ⟨deliveries, discarded, final, hrouted, htick⟩ := world.tick_eq h
  rw [htick, advanceRoads_eq, ← hrouted.length_deliveries, ← hrouted.length_discarded]
  rfl

/-- **One command.**  The counters grow by what is to be counted, and by nothing else. -/
theorem stats_obey (h : world.network.Regular) (command : Command) :
    (world.obey command).world.stats = world.stats + world.tally [command] := by
  have hsignal : ∀ (road : RoadId) (signal : Signal),
      (world.setSignal road signal).world.stats = world.stats + {} :=
    fun road signal => world.stats_setSignal road signal
  cases command with
  | tick =>
      refine (stats_tick h).trans ?_
      simp only [tally, departed, departing, List.append_nil]
      rfl
  | spawn length road => exact world.stats_spawn length road
  | spawnWave => exact stats_spawnEach h.entryPoint
  | toggleSignals => rfl
  | setSignal road signal => exact hsignal road signal
  | configure config => rfl
  | network command =>
      cases command with
      | toggleSignals => rfl
      | setSignal road signal => exact hsignal road signal

/-!
## A whole run
-/

/-- **The counters count the run.** -/
theorem stats_run (h : world.network.Regular) (commands : List Command) :
    (world.run commands).stats = world.stats + world.tally commands := by
  induction commands generalizing world with
  | nil => rfl
  | cons command commands ih =>
      have hregular := h.of_frame_eq (world.frame_obey command)
      rw [run_cons, ih hregular, stats_obey h, world.tally_cons command commands, Stats.add_assoc]

/-- A fresh world begins to count at zero. -/
theorem Fresh.stats_run {start : World} (h : start.Fresh) (commands : List Command) :
    (start.run commands).stats = start.tally commands := by
  obtain ⟨hregular, -, hstats, -⟩ := h.start
  rw [World.stats_run hregular, hstats, Stats.zero_add]

/-- Only roads that exist are departed from. -/
theorem has_of_mem_departed (h : world.network.Regular) {commands : List Command}
    {departure : RoadId × Car} (hmem : departure ∈ world.departed commands) :
    world.network.has departure.1 = true := by
  induction commands generalizing world with
  | nil => cases hmem
  | cons command commands ih =>
      have hframe := world.frame_obey command
      rcases List.mem_append.mp hmem with hnow | hlater
      · cases command with
        | tick =>
            obtain ⟨road, hroad, -⟩ := (mem_departures_iff h).mp hnow
            exact decide_eq_true (List.getElem?_eq_some_iff.mp hroad).1
        | _ => cases hnow
      · rw [← Network.has_eq_of_frame_eq hframe]
        exact ih (h.of_frame_eq hframe) hlater

/-- Where every road is followed by another nothing is ever discarded. -/
theorem carsDiscarded_tally (h : world.network.Regular)
    (hends : ∀ road ∈ world.network.roads, road.successors ≠ []) (commands : List Command) :
    (world.tally commands).carsDiscarded = 0 := by
  refine List.countP_eq_zero.mpr fun departure hdeparture hnone => ?_
  have hindex : departure.1.index < world.network.roads.length :=
    of_decide_eq_true (has_of_mem_departed h hdeparture)
  refine hends _ (List.getElem_mem hindex) ?_
  rw [List.isEmpty_iff, Network.successors, Network.road?, List.getElem?_eq_getElem hindex] at hnone
  exact hnone

/-- Where no car can be refused, as many are created as are spawned one by one. -/
theorem carsSpawned_tally {commands : List Command}
    (hfits : ∀ length road, .spawn length road ∈ commands →
      FitLength length ∧ world.network.has road = true) (hwave : .spawnWave ∉ commands) :
    (world.tally commands).carsSpawned = commands.countP Command.isSpawn := by
  induction commands generalizing world with
  | nil => rfl
  | cons command commands ih =>
      have hnow : (world.obey command).result.created = if command.isSpawn then 1 else 0 := by
        cases command with
        | spawn length road =>
            have hcheck := world.checkSpawn_eq_ok_iff.mpr (hfits length road List.mem_cons_self)
            simp only [obey, spawn_of_check hcheck]
            rfl
        | spawnWave => exact absurd List.mem_cons_self hwave
        | network command => cases command <;> rfl
        | _ => rfl
      have hlater := @ih (world.obey command).world
        (by
          intro length road hmem
          rw [Network.has_eq_of_frame_eq (world.frame_obey command)]
          exact hfits length road (List.mem_cons_of_mem command hmem))
        fun hmem => hwave (List.mem_cons_of_mem command hmem)
      simp only [tally] at hlater ⊢
      rw [replies, List.map_cons, List.sum_cons, hlater, hnow, List.countP_cons, Nat.add_comm]

/-- Without dead ends every car that was created stands. -/
theorem Fresh.carCount_eq {start : World} (h : start.Fresh)
    (hends : ∀ road ∈ start.network.roads, road.successors ≠ []) (commands : List Command) :
    (start.run commands).stats.carsDiscarded = 0 ∧
      (start.run commands).carCount = (start.run commands).stats.carsSpawned := by
  have hnone : (start.run commands).stats.carsDiscarded = 0 := by
    rw [h.stats_run]
    exact carsDiscarded_tally h.start.1 hends commands
  have hcount := h.carCount_add_carsDiscarded commands
  exact ⟨hnone, by omega⟩

/-!
## The audit
-/

/-- What the next tick adds to the counters, by the cars that leave roads in it. -/
structure CountsDepartures (world : World) : Prop where
  /-- The cars that leave their roads are those that are not kept on them. -/
  kept : (world.network.advance world.config.followingDistance).1.carCount +
    world.departures.length = world.carCount
  handOffs : world.tick.1.stats.handOffs = world.stats.handOffs +
    world.departures.countP fun departure => !(world.network.successors departure.1).isEmpty
  carsDiscarded : world.tick.1.stats.carsDiscarded = world.stats.carsDiscarded +
    world.departures.countP fun departure => (world.network.successors departure.1).isEmpty
  departures : world.departures.length =
    (world.tick.1.stats.handOffs - world.stats.handOffs) +
      (world.tick.1.stats.carsDiscarded - world.stats.carsDiscarded)

theorem countsDepartures (h : world.network.Regular) : world.CountsDepartures := by
  have hstats := stats_tick h
  have hperm := (world.network.cars_advance_perm world.config.followingDistance).length_eq
  rw [List.length_append, List.length_map, List.length_map, List.length_map,
    Network.length_cars_eq_carCount, Network.length_cars_eq_carCount, Network.advance_eq] at hperm
  have hsplit := List.length_eq_countP_add_countP (l := world.departures)
    fun departure => !(world.network.successors departure.1).isEmpty
  simp only [Bool.not_eq_true, Bool.not_eq_false', Bool.decide_eq_true] at hsplit
  refine ⟨?_, by rw [hstats], by rw [hstats], ?_⟩
  · rw [Network.advance_eq]
    exact hperm
  · rw [hstats]
    simp only [Nat.add_sub_cancel_left]
    exact hsplit

/-- What the counters say of a run. -/
structure Audit (start : World) (commands : List Command) : Prop where
  ticks : (start.run commands).stats.ticks = commands.count .tick
  /-- One for each car spawned by itself, and for each car that a wave replied. -/
  carsSpawned : (start.run commands).stats.carsSpawned =
    ((start.replies commands).map Reply.created).sum
  signalToggles : (start.run commands).stats.signalToggles = commands.count .toggleSignals
  /-- Every tick counts the cars that leave roads in it, each for the road it leaves. -/
  tick : ∀ before after, commands = before ++ .tick :: after →
    (start.run before).CountsDepartures
  /-- Nothing but ticks counts departures. -/
  handOffs : (start.run commands).stats.handOffs = (start.departed commands).countP
    fun departure => !(start.network.successors departure.1).isEmpty
  carsDiscarded : (start.run commands).stats.carsDiscarded = (start.departed commands).countP
    fun departure => (start.network.successors departure.1).isEmpty
  noDeadEnds : (∀ road ∈ start.network.roads, road.successors ≠ []) →
    (start.run commands).stats.carsDiscarded = 0 ∧
      (start.run commands).carCount = (start.run commands).stats.carsSpawned
  /-- No counter ever decreases. -/
  grows : ∀ before after, commands = before ++ after →
    (start.run before).stats ≤ (start.run commands).stats

/-- **The counters are an audit of the run**, of every run of a fresh world. -/
theorem audit_run {start : World} (h : start.Fresh) (commands : List Command) :
    Audit start commands := by
  have hstats := h.stats_run commands
  refine {
    ticks := congrArg Stats.ticks hstats
    carsSpawned := congrArg Stats.carsSpawned hstats
    signalToggles := congrArg Stats.signalToggles hstats
    tick := fun before _ _ => countsDepartures (h.regular_run before)
    handOffs := congrArg Stats.handOffs hstats
    carsDiscarded := congrArg Stats.carsDiscarded hstats
    noDeadEnds := fun hends => h.carCount_eq hends commands
    grows := ?_ }
  intro before after hsplit
  rw [hsplit, run_append, World.stats_run (h.regular_run before)]
  exact Stats.le_add _ _

/-- A wave of one car, two spawns that are refused, a toggle that counts and one that does
not; then the car goes round over the arc once and leaves at the dead end. -/
def refusals : List Command :=
  [.spawnWave, .spawn Binary32.nan ⟨0⟩, .spawn 20 ⟨9⟩, .toggleSignals, .network .toggleSignals] ++
    List.replicate 20 .tick

/-- The audit of a run in which some commands fail. -/
theorem audit_run_fork :
    let start : World := { fork with draws := .ofSeed 2 }
    start.Fresh ∧ (start.run refusals).stats =
      { ticks := 20, carsSpawned := 1, handOffs := 3, carsDiscarded := 1, signalToggles := 1 } ∧
      Audit start refusals :=
  ⟨fresh_fork_draws _, by decide +kernel, audit_run (fresh_fork_draws _) refusals⟩

end World

end RoadTraffic
