import RoadTraffic.Proofs.Headless.Schedule
import RoadTraffic.Proofs.Network.Demo

/-!
# Accounts of a run without a viewer

A run of the demonstration network follows its schedule to the end, whatever words route
the cars: no step fails (`step_stage`), so no run does (`runTicks_stage`).  As no car is
lost on the way, the population at any moment is the number of cars spawned so far, and
the counters can be read off the commands (`standsAt_stage`).
-/

namespace RoadTraffic.Headless

variable (options : Options) (entropy : Draws)

/-- The world of a run before its first wave. -/
def start : World := Demo.world (config options) (draws options entropy)

/-- The world of a run after some ticks, with what is due after the last of them. -/
def stage (ticks : Nat) : World := (start options entropy).run (schedule options ticks)

variable {options : Options} {commands : List Command}

/-!
## Any moment
-/

/-- The usual length is fit for any road. -/
theorem fitLength_usual : FitLength 20 := by decide +kernel

/-- A car that is scheduled can be created. -/
theorem Scheduled.fits {length : Float32} {road : RoadId} (h : Scheduled (.spawn length road)) :
    FitLength length ∧ (start options entropy).network.has road = true := by
  have hroads : (start options entropy).network.roads.length = 34 := Demo.length_roads
  cases h with
  | clockwise => exact ⟨fitLength_usual, decide_eq_true (by rw [hroads]; decide)⟩
  | counterclockwise => exact ⟨fitLength_usual, decide_eq_true (by rw [hroads]; decide)⟩

theorem Scheduled.keepsStep {command : Command} (h : Scheduled command) :
    command.keepsStep = true := by
  cases h <;> rfl

variable (haccepted : (config options).check = .ok ())
  (hscheduled : ∀ command ∈ commands, Scheduled command)

include haccepted in
theorem fresh_start : (start options entropy).Fresh := Demo.fresh_world rfl haccepted _

include haccepted hscheduled in
/-- At any moment all cars that were spawned are there. -/
theorem population_run :
    ((start options entropy).run commands).stats.carsDiscarded = 0 ∧
      ((start options entropy).run commands).stats.carsSpawned =
        commands.countP Command.isSpawn ∧
      ((start options entropy).run commands).carCount = commands.countP Command.isSpawn := by
  have hfresh := fresh_start entropy haccepted
  have hfits : ∀ length road, .spawn length road ∈ commands →
      FitLength length ∧ (start options entropy).network.has road = true :=
    fun length road hmem => (hscheduled _ hmem).fits entropy
  have hwave : .spawnWave ∉ commands := fun hmem => nomatch hscheduled _ hmem
  obtain ⟨hnone, hcount⟩ := hfresh.carCount_eq Demo.noDeadEnds commands
  have hspawned : ((start options entropy).run commands).stats.carsSpawned =
      commands.countP Command.isSpawn := by
    rw [hfresh.stats_run]
    exact World.carsSpawned_tally hfits hwave
  exact ⟨hnone, hspawned, hcount.trans hspawned⟩

include haccepted hscheduled in
/-- At any moment a wave would succeed. -/
theorem spawnWave_run :
    (∃ ids, ((start options entropy).run commands).spawnWave.result = .ok ids) ∧
      ((start options entropy).run commands).spawnWave.world =
        ((start options entropy).run commands).run wave := by
  have hregular := (fresh_start entropy haccepted).regular_run commands
  have hframe := (start options entropy).frame_run commands
  have hlength : ((start options entropy).run commands).config.defaultCarLength = 20 :=
    congrArg Config.defaultCarLength
      ((start options entropy).config_run fun _ hmem => nomatch hscheduled _ hmem)
  have hentries : ((start options entropy).run commands).network.entryPoints = [⟨0⟩, ⟨11⟩] :=
    (congrArg Prod.snd hframe).trans Demo.entryPoints
  obtain ⟨hresult, hworld, -⟩ := World.spawnEach_of_fits fitLength_usual hregular.entryPoint
  rw [World.spawnWave, hlength]
  refine ⟨⟨_, hresult⟩, ?_⟩
  rw [hworld, hentries]
  rfl

/-!
## One step
-/

theorem world_toggleIfDue (ticks : Nat) (world : World) :
    (toggleIfDue options (ticks + 1) world).1 =
      world.run (if options.toggleInterval ∣ ticks + 1 then [.toggleSignals] else []) := by
  unfold toggleIfDue
  rw [due_succ]
  by_cases hdue : options.toggleInterval ∣ ticks + 1
  · simp only [hdue, decide_true, if_true]
    rfl
  · simp only [hdue, decide_false, if_false]
    rfl

theorem tick_stage (ticks : Nat) : (stage options entropy ticks).tick.1 =
    (start options entropy).run (schedule options ticks ++ [.tick]) := by
  rw [World.run_append]
  rfl

theorem scheduled_tick (ticks : Nat) :
    ∀ command ∈ schedule options ticks ++ [.tick], Scheduled command :=
  List.forall_mem_append.mpr ⟨scheduled_schedule ticks, List.forall_mem_singleton.mpr .tick⟩

include haccepted in
/-- A tick leaves the population as it is. -/
theorem carCount_tick (ticks : Nat) :
    (stage options entropy ticks).tick.1.carCount = carsAfter options ticks := by
  obtain ⟨-, -, hcount⟩ := population_run entropy haccepted (scheduled_tick ticks)
  rw [tick_stage, hcount, List.countP_append, countP_isSpawn_schedule]
  rfl

include haccepted in
/-- The wave after a tick, if one is due and has room, succeeds. -/
theorem waveIfDue_tick (ticks : Nat) :
    (∃ ids, (waveIfDue options (ticks + 1) (stage options entropy ticks).tick.1).result =
        .ok ids) ∧
      (waveIfDue options (ticks + 1) (stage options entropy ticks).tick.1).world =
        (stage options entropy ticks).tick.1.run
          (if options.spawnInterval ∣ ticks + 1 ∧ carsAfter options ticks < options.maxCars
            then wave else []) := by
  unfold waveIfDue
  rw [due_succ, carCount_tick entropy haccepted]
  by_cases hdue : options.spawnInterval ∣ ticks + 1 ∧ carsAfter options ticks < options.maxCars
  · simp only [hdue, decide_true, Bool.and_self, if_true]
    rw [tick_stage]
    exact spawnWave_run entropy haccepted (scheduled_tick ticks)
  · rw [← Bool.decide_and, decide_eq_false hdue]
    exact ⟨⟨[], rfl⟩, by rw [if_neg hdue]; rfl⟩

include haccepted in
/-- **No step fails**, and each leads from one stage to the next. -/
theorem step_stage (ticks : Nat) :
    (step options (ticks + 1) (stage options entropy ticks)).result = .ok () ∧
      (step options (ticks + 1) (stage options entropy ticks)).world =
        stage options entropy (ticks + 1) := by
  obtain ⟨⟨ids, hresult⟩, hworld⟩ := waveIfDue_tick entropy haccepted ticks
  simp only [step, hresult, world_toggleIfDue, hworld, true_and]
  simp only [stage, schedule, commandsOf, World.run_append, World.run_cons, Nat.add_sub_cancel]
  rfl

/-!
## A whole run
-/

/-- The reports on `count` ticks, from the tick `first` on. -/
def reportsFrom (options : Options) (entropy : Draws) (first count : Nat) : List Section :=
  ((List.range' first count).filter (reports options)).map fun tick =>
    .report tick (stage options entropy tick)

include haccepted in
/-- **No run fails.** -/
theorem runTicks_stage {remaining : Nat} (hle : remaining ≤ options.ticks) {progress : Progress}
    (hworld : progress.world = stage options entropy (options.ticks - remaining)) :
    (runTicks options remaining progress).2 = none ∧
      (runTicks options remaining progress).1.world = stage options entropy options.ticks ∧
      (runTicks options remaining progress).1.sections.reverse = progress.sections.reverse ++
        reportsFrom options entropy (options.ticks - remaining + 1) remaining := by
  induction remaining generalizing progress with
  | zero => exact ⟨rfl, hworld, (List.append_nil _).symm⟩
  | succ remaining ih =>
      have htick : options.ticks - (remaining + 1) + 1 = options.ticks - remaining := by omega
      obtain ⟨hresult, hstep⟩ := step_stage entropy haccepted (options.ticks - (remaining + 1))
      rw [htick, ← hworld] at hresult hstep
      obtain ⟨hnone, hlast, hsections⟩ := @ih (by omega)
        (progress.add options (options.ticks - remaining)
          (step options (options.ticks - remaining) progress.world)) hstep
      simp only [runTicks, hresult]
      refine ⟨hnone, hlast, hsections.trans ?_⟩
      rw [htick, reportsFrom, reportsFrom, List.range'_succ, List.filter_cons]
      simp only [Progress.add, hresult, hstep, Except.toBool, Bool.true_and]
      split
      · rw [List.reverse_cons, List.append_assoc]
        rfl
      · rfl

/-- The last tick is followed by the final state, and not by a report. -/
theorem filter_reports : (List.range' 1 options.ticks).filter (reports options) =
    reportTicks options := by
  cases hticks : options.ticks with
  | zero => rw [reportTicks, hticks]; rfl
  | succ ticks =>
      have hlast : reports options (1 + ticks) = false := by
        rw [reports, hticks, Nat.add_comm, decide_eq_false (Nat.lt_irrefl _), Bool.and_false]
      rw [reportTicks, hticks, Nat.add_sub_cancel, List.range'_1_concat, List.filter_append,
        List.filter_singleton, hlast]
      refine (List.append_nil _).trans (List.filter_congr fun tick hmem => ?_)
      obtain ⟨hpos, hlt⟩ := List.mem_range'_1.mp hmem
      obtain ⟨earlier, rfl⟩ := Nat.exists_eq_add_one_of_ne_zero (Nat.ne_of_gt hpos)
      have hbefore : earlier + 1 < ticks + 1 := by omega
      rw [reports, due_succ, hticks, decide_eq_true hbefore, Bool.and_true]

/-!
## The accounts
-/

/-- What can be said of the world of a run after some ticks. -/
structure StandsAt (options : Options) (count : Nat) (world : World) : Prop where
  ticks : world.stats.ticks = count
  carsDiscarded : world.stats.carsDiscarded = 0
  carsSpawned : world.stats.carsSpawned = carsAfter options count
  carCount : world.carCount = carsAfter options count
  signalToggles : world.stats.signalToggles = count / options.toggleInterval
  roads : world.network.roads.length = 34
  /-- All roads show stop, or none. -/
  stopped : ∀ road ∈ world.network.roads,
    road.isStopped = decide (count / options.toggleInterval % 2 = 1)

include haccepted in
theorem standsAt_stage (ticks : Nat) :
    StandsAt options ticks (stage options entropy ticks) := by
  have hscheduled : ∀ command ∈ schedule options ticks, Scheduled command :=
    scheduled_schedule ticks
  obtain ⟨hdiscarded, hspawned, hcount⟩ := population_run entropy haccepted hscheduled
  rw [countP_isSpawn_schedule] at hspawned hcount
  have hstats := (fresh_start entropy haccepted).stats_run (schedule options ticks)
  have hproceed : (start options entropy).network.AllShow .proceed := Demo.allShow_proceed
  have hsignals := hproceed.run fun command hmem => (hscheduled command hmem).keepsStep
  refine {
    ticks := (congrArg Stats.ticks hstats).trans (count_tick_schedule ticks)
    carsDiscarded := hdiscarded
    carsSpawned := hspawned
    carCount := hcount
    signalToggles := (congrArg Stats.signalToggles hstats).trans
      (count_toggleSignals_schedule ticks)
    roads := ?_
    stopped := ?_ }
  · exact (Network.length_eq_of_frame_eq (World.frame_run _ _)).trans Demo.length_roads
  · intro road hroad
    rw [Road.isStopped, hsignals road hroad, count_toggleSignals_schedule, Signal.after]
    split <;> simp_all [Signal.toggled, Signal.proceeds]

/-- The accounts of a whole run. -/
structure Accounts (options : Options) (entropy : Draws) : Prop where
  made : World.setUp .demo (config options) (draws options entropy) =
    (Demo.built.builtEvents, .ok (start options entropy))
  first : (start options entropy).spawnWave.world = stage options entropy 0
  steps : ∀ ticks, (step options (ticks + 1) (stage options entropy ticks)).result = .ok () ∧
    (step options (ticks + 1) (stage options entropy ticks)).world =
      stage options entropy (ticks + 1)
  error : (run options entropy).error = none
  sections : (run options entropy).sections = [.opening, .initial (stage options entropy 0)] ++
    (reportTicks options).map (fun tick => .report tick (stage options entropy tick)) ++
    [.final (stage options entropy options.ticks)]
  reports : (reportTicks options).length = (options.ticks - 1) / options.reportInterval
  /-- The final state, like any state that is reported. -/
  stands : ∀ ticks, StandsAt options ticks (stage options entropy ticks)
  /-- Also within a wave. -/
  population : ∀ before, before <+: schedule options options.ticks →
    ((start options entropy).run before).carCount ≤ max 2 (options.maxCars + 1)

include haccepted in
/-- The first wave, into a network that is still empty. -/
theorem spawnWave_start : (∃ ids, (start options entropy).spawnWave.result = .ok ids) ∧
    (start options entropy).spawnWave.world = stage options entropy 0 := by
  have hnothing : ∀ command ∈ [], Scheduled command := nofun
  exact spawnWave_run entropy haccepted hnothing

include haccepted in
theorem runWorld_stage : (runWorld options (start options entropy)).error = none ∧
    (runWorld options (start options entropy)).sections = .initial (stage options entropy 0) ::
      (reportTicks options).map (fun tick => .report tick (stage options entropy tick)) ++
      [.final (stage options entropy options.ticks)] := by
  obtain ⟨⟨ids, hwave⟩, hfirst⟩ := spawnWave_start entropy haccepted
  have hinitial : (Progress.mk (stage options entropy 0)
      [.initial (stage options entropy 0)] []).world =
      stage options entropy (options.ticks - options.ticks) := by rw [Nat.sub_self]
  obtain ⟨hnone, hlast, hsections⟩ := runTicks_stage entropy haccepted (Nat.le_refl _) hinitial
  rw [Nat.sub_self, reportsFrom, filter_reports] at hsections
  simp only [runWorld, hwave, hfirst]
  split
  · next progress reason hrun =>
      rw [hrun] at hnone
      exact nomatch hnone
  · next progress hrun =>
      rw [hrun] at hlast hsections
      exact ⟨rfl, by rw [hlast, hsections]; rfl⟩

/-- A run whose world is made goes on with it. -/
theorem run_of_setUp {events : List Event} {world : World}
    (h : World.setUp .demo (config options) (draws options entropy) = (events, .ok world)) :
    run options entropy = ⟨.opening :: (runWorld options world).sections,
      events ++ (runWorld options world).events, (runWorld options world).error⟩ := by
  unfold run
  rw [h]

/-- **The accounts of a run**, for all options with settings that are accepted and
all random words. -/
theorem run_accounts {options : Options} (haccepted : (config options).check = .ok ())
    (entropy : Draws) : Accounts options entropy := by
  have hmade : World.setUp .demo (config options) (draws options entropy) =
      (Demo.built.builtEvents, .ok (start options entropy)) := Demo.setUp_eq rfl haccepted _
  have hrun := run_of_setUp entropy hmade
  obtain ⟨herror, hsections⟩ := runWorld_stage entropy haccepted
  refine {
    made := hmade
    first := (spawnWave_start entropy haccepted).2
    steps := step_stage entropy haccepted
    error := ?_
    sections := ?_
    reports := length_reportTicks
    stands := standsAt_stage entropy haccepted
    population := ?_ }
  · rw [hrun]
    exact herror
  · rw [hrun]
    exact congrArg _ hsections
  · intro before hinitial
    have hscheduled : ∀ command ∈ before, Scheduled command := fun command hmem =>
      scheduled_schedule _ command (hinitial.subset hmem)
    rw [(population_run entropy haccepted hscheduled).2.2]
    calc before.countP Command.isSpawn
        ≤ (schedule options options.ticks).countP Command.isSpawn :=
          hinitial.sublist.countP_le
      _ = carsAfter options options.ticks := countP_isSpawn_schedule _
      _ ≤ max 2 (options.maxCars + 1) := carsAfter_le _

/-- Four waves follow the first, and the last of them finds room for one car. -/
theorem run_accounts_nine :
    let options : Options :=
      { ticks := 100, spawnInterval := 10, maxCars := 9, toggleInterval := 30,
        reportInterval := 25 }
    (config options).check = .ok () ∧ carsAfter options 100 = 10 ∧
      reportTicks options = [25, 50, 75] ∧ ∀ entropy, Accounts options entropy :=
  ⟨World.check_default, by decide, by decide, run_accounts World.check_default⟩

end RoadTraffic.Headless
