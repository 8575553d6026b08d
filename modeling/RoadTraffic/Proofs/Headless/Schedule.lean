import RoadTraffic.Headless.Run
import RoadTraffic.Proofs.World.Counters

/-!
# The schedule of a run without a viewer

What a run without a viewer does to its world depends on its options alone: not on the
random words, and not even on the population that it asks for before every wave.

    before the first tick   a wave
    after tick t            a wave, if the spawn interval divides t and there is room
                            a toggle of all signals, if the toggle interval divides t

Every wave brings two cars and none is lost, so there is room as long as the waves so far
have not filled the network, which `carsAfter` says in closed form.  This module counts the
commands of the schedule; that a run follows it is shown in
`RoadTraffic.Proofs.Headless.Accounts`.
-/

namespace RoadTraffic.Headless

variable (options : Options)

/-- The cars in the network after some ticks, with what is due after the last of them. -/
def carsAfter (ticks : Nat) : Nat :=
  if 0 < options.spawnInterval ∧ 2 < options.maxCars then
    2 + 2 * min (ticks / options.spawnInterval) ((options.maxCars - 2 + 1) / 2)
  else 2

/-- A wave, car by car. -/
def wave : List Command := [.spawn 20 ⟨0⟩, .spawn 20 ⟨11⟩]

/-- A tick, with what is due after it. -/
def commandsOf (tick : Nat) : List Command :=
  .tick ::
    ((if options.spawnInterval ∣ tick ∧ carsAfter options (tick - 1) < options.maxCars then wave
      else []) ++
      (if options.toggleInterval ∣ tick then [.toggleSignals] else []))

/-- The first wave and some ticks. -/
def schedule : (ticks : Nat) → List Command
  | 0 => wave
  | ticks + 1 => schedule ticks ++ commandsOf options (ticks + 1)

/-- The ticks after which there is a report: the last is not among them. -/
def reportTicks : List Nat :=
  (List.range' 1 (options.ticks - 1)).filter (options.reportInterval ∣ ·)

/-- What can stand in a schedule. -/
inductive Scheduled : Command → Prop
  | tick : Scheduled .tick
  | toggleSignals : Scheduled .toggleSignals
  /-- A car on the straight where the clockwise lane is entered. -/
  | clockwise : Scheduled (.spawn 20 ⟨0⟩)
  /-- A car on the straight where the counterclockwise lane is entered. -/
  | counterclockwise : Scheduled (.spawn 20 ⟨11⟩)

variable {options : Options}

/-!
## What is due
-/

theorem due_succ (interval tick : Nat) :
    due interval (tick + 1) = decide (interval ∣ tick + 1) := by
  cases interval with
  | zero => simp [due]
  | succ interval => simp [due, Nat.dvd_iff_mod_eq_zero]

/-- What comes every so many ticks comes as often as that number goes into the ticks. -/
theorem length_filter_dvd (interval ticks : Nat) :
    ((List.range' 1 ticks).filter (interval ∣ ·)).length = ticks / interval := by
  induction ticks with
  | zero => simp
  | succ ticks ih =>
      rw [List.range'_1_concat, List.filter_append, List.length_append, ih, Nat.succ_div,
        Nat.add_comm 1 ticks]
      split <;> simp_all

theorem length_reportTicks :
    (reportTicks options).length = (options.ticks - 1) / options.reportInterval :=
  length_filter_dvd _ _

/-!
## The population
-/

theorem carsAfter_zero : carsAfter options 0 = 2 := by
  unfold carsAfter
  split <;> simp

/-- A wave is due and finds room, or the population stays. -/
theorem carsAfter_succ (ticks : Nat) : carsAfter options (ticks + 1) = carsAfter options ticks +
    if options.spawnInterval ∣ ticks + 1 ∧ carsAfter options ticks < options.maxCars then 2
    else 0 := by
  unfold carsAfter
  by_cases hgrows : 0 < options.spawnInterval ∧ 2 < options.maxCars
  · have hsucc : (ticks + 1) / options.spawnInterval = ticks / options.spawnInterval +
        if options.spawnInterval ∣ ticks + 1 then 1 else 0 := Nat.succ_div
    simp only [if_pos hgrows, hsucc]
    by_cases hdue : options.spawnInterval ∣ ticks + 1
    · simp only [hdue, true_and, if_true]
      split <;> omega
    · simp only [hdue, false_and, if_false, Nat.add_zero]
  · simp only [if_neg hgrows]
    split
    · next hdue =>
        have hpos : 0 < options.spawnInterval := Nat.pos_of_dvd_of_pos hdue.1 (Nat.succ_pos ticks)
        omega
    · rfl

/-- A wave that finds room for one car brings two, and no wave comes after it. -/
theorem carsAfter_le (ticks : Nat) : carsAfter options ticks ≤ max 2 (options.maxCars + 1) := by
  unfold carsAfter
  split <;> omega

/-!
## Counting commands
-/

theorem scheduled_wave : ∀ command ∈ wave, Scheduled command :=
  List.forall_mem_cons.mpr ⟨.clockwise, List.forall_mem_singleton.mpr .counterclockwise⟩

theorem scheduled_commandsOf (tick : Nat) :
    ∀ command ∈ commandsOf options tick, Scheduled command := by
  intro command hmem
  rcases List.mem_cons.mp hmem with rfl | hdue
  · exact .tick
  · rcases List.mem_append.mp hdue with hwave | htoggle
    · split at hwave
      · exact scheduled_wave command hwave
      · exact nomatch hwave
    · split at htoggle
      · rw [List.mem_singleton.mp htoggle]
        exact .toggleSignals
      · exact nomatch htoggle

theorem scheduled_schedule (ticks : Nat) :
    ∀ command ∈ schedule options ticks, Scheduled command := by
  induction ticks with
  | zero => exact scheduled_wave
  | succ ticks ih => exact List.forall_mem_append.mpr ⟨ih, scheduled_commandsOf (ticks + 1)⟩

theorem count_tick_schedule (ticks : Nat) : (schedule options ticks).count .tick = ticks := by
  induction ticks with
  | zero => rfl
  | succ ticks ih =>
      rw [schedule, List.count_append, ih]
      unfold commandsOf
      split <;> split <;> rfl

theorem count_toggleSignals_schedule (ticks : Nat) :
    (schedule options ticks).count .toggleSignals = ticks / options.toggleInterval := by
  induction ticks with
  | zero => simp [schedule, wave]
  | succ ticks ih =>
      rw [schedule, List.count_append, ih, Nat.succ_div]
      congr 1
      unfold commandsOf
      split <;> split <;> rfl

theorem countP_isSpawn_schedule (ticks : Nat) :
    (schedule options ticks).countP Command.isSpawn = carsAfter options ticks := by
  induction ticks with
  | zero => exact carsAfter_zero.symm
  | succ ticks ih =>
      rw [schedule, List.countP_append, ih, carsAfter_succ]
      congr 1
      unfold commandsOf
      rw [Nat.add_sub_cancel]
      split <;> split <;> rfl

end RoadTraffic.Headless
