import RoadTraffic.Proofs.Road.Arriving
import RoadTraffic.Proofs.World.Signals
import RoadTraffic.Proofs.World.Transit

/-!
# Which cars leave their road

A car that enters a brisk road, and finds it open from then on, leaves it in the tick after the
`K`-th, where `K` is the least number of strides that lead to the end, and until then each tick
takes it further.  On any other road it stays for good: from some tick on it stands still,
before the end (`leaves_iff_brisk`).

The checks that a network has passed let both kinds of roads through.  The arc of `still` is so
short that one step of a single spans it, but its stride, the quotient of speed and radius, is
half a step and is rounded to zero; a car on it never comes off (`not_leaves`).
-/

namespace RoadTraffic

open Binary32

namespace World

/-- The following distance is not below zero at any tick of the run, also before the car has
entered, and the road shows proceed at every tick of the car's stay, if it is straight. -/
structure FindsOpen (start : World) (id : RoadId) (road : Road) (car : CarId)
    (before : List Command) (command : Command) (after : List Command) : Prop where
  spaced : start.Spaced (before ++ command :: after)
  proceed : road.isStraight = true →
    (start.run (before ++ [command])).FindsProceed id car after

variable {start world : World} {id : RoadId} {road : Road} {car : CarId}
  {before after : List Command} {command : Command}

/-- **Who leaves.**  A car that enters a brisk road and finds it open leaves it one tick after
the strides that lead to the end, and gets nearer to the end in each of these.  On a road that
is not brisk it comes to stand before the end and stays there. -/
theorem leaves_iff_brisk (h : start.Fresh) (hroad : start.network.road? id = some road)
    (hentering : car ∈ (start.run before).entering id command) :
    (road.Brisk → ∃ K, IsLeast {k | road.AtEnd (road.milestone k)} K ∧
      (∀ k < K, road.come (road.milestone k) < road.come (road.milestone (k + 1))) ∧
      ∀ after, FindsOpen start id road car before command after →
        (after.count .tick ≤ K → (start.run (before ++ command :: after)).StandsAt id car
          (road.milestone (after.count .tick))) ∧
        (K < after.count .tick →
          (start.run (before ++ [command])).stay id car after = some (K + 1))) ∧
    (¬ road.Brisk → ∃ n, ¬ road.AtEnd (road.milestone n) ∧
      ∀ after, FindsOpen start id road car before command after →
        (start.run (before ++ [command])).stay id car after = none ∧
        (start.run (before ++ command :: after)).StandsAt id car
          (road.milestone (min (after.count .tick) n))) := by
  have hfit : road.Fit := h.start.1.fit road (Network.mem_roads_of_road? hroad)
  constructor
  · intro hbrisk
    obtain ⟨K, hend, hleast⟩ := hbrisk.exists_isLeast_atEnd hfit
    have hclear : ∀ k, k < K → ¬ road.AtEnd (road.milestone k) :=
      fun k hlt hat => Nat.not_le.mpr hlt (hleast hat)
    refine ⟨K, ⟨hend, hleast⟩, fun k hk => hbrisk.come_lt hfit (hclear k hk),
      fun after hopen => ?_⟩
    obtain ⟨hstay, hstands⟩ :=
      stay_eq_transit_of_entering h hopen.spaced hroad hentering hopen.proceed
    rw [Road.transit_eq_ite (Nat.zero_le K) hend fun k _ => hclear k, Nat.sub_zero] at hstay
    refine ⟨fun hbefore => hstands ?_, fun hlater => ?_⟩
    · rw [hstay, if_neg (Nat.not_lt.mpr hbefore)]
    · rw [hstay, if_pos hlater]
  · intro hslow
    obtain ⟨n, hstalled⟩ := Road.exists_stalled hfit hslow
    refine ⟨n, (hstalled n).1, fun after hopen => ?_⟩
    obtain ⟨hstay, hstands⟩ :=
      stay_eq_transit_of_entering h hopen.spaced hroad hentering hopen.proceed
    have hnone := hstay.trans (Road.transit_eq_none (fun k _ => (hstalled k).1) _)
    refine ⟨hnone, ?_⟩
    rw [← (hstalled _).2]
    exact hstands hnone

/-- A car between two others on the straight before the fork, which is brisk: the limit of a
stride of 50 is far past its length of 100. -/
theorem leaves_iff_brisk_fork :
    let before : List Command := [.spawn 20 ⟨0⟩, .tick]
    let command : Command := .spawn 30 ⟨0⟩
    let after : List Command := [.spawnWave, .setSignal ⟨1⟩ .stop, .tick, .tick, .tick, .tick]
    ∃ road, fork.network.road? ⟨0⟩ = some road ∧ road.Brisk ∧
      FindsOpen fork ⟨0⟩ road ⟨1⟩ before command after ∧
      ∃ K, IsLeast {k | road.AtEnd (road.milestone k)} K ∧
        (∀ k < K, road.come (road.milestone k) < road.come (road.milestone (k + 1))) ∧
        (after.count .tick ≤ K → (fork.run (before ++ command :: after)).StandsAt ⟨0⟩ ⟨1⟩
          (road.milestone (after.count .tick))) ∧
        (K < after.count .tick →
          (fork.run (before ++ [command])).stay ⟨0⟩ ⟨1⟩ after = some (K + 1)) := by
  intro before command after
  let road : Road :=
    { id := ⟨0⟩, course := .straight ⟨⟨0, 0⟩, ⟨100, 0⟩⟩, speed := 50, successors := [⟨1⟩, ⟨2⟩] }
  have hroad : fork.network.road? ⟨0⟩ = some road := by decide +kernel
  have hbrisk : road.Brisk := by decide +kernel
  have hentering : ⟨1⟩ ∈ (fork.run before).entering ⟨0⟩ command := by decide +kernel
  have hopen : FindsOpen fork ⟨0⟩ road ⟨1⟩ before command after :=
    ⟨by decide +kernel, fun _ => by decide +kernel⟩
  obtain ⟨K, hleast, hgrows, hleaves⟩ := (leaves_iff_brisk fresh_fork hroad hentering).1 hbrisk
  exact ⟨road, hroad, hbrisk, hopen, K, hleast, hgrows, hleaves after hopen⟩

/-!
## A road that is not brisk
-/

/-- Ticks alone leave the following distance as it is. -/
theorem spaced_ticks (h : 0 ≤ world.config.followingDistance) (n : Nat) :
    world.Spaced (List.replicate n .tick) := by
  induction n generalizing world with
  | zero => trivial
  | succ n ih =>
      refine ⟨fun _ => h, ih ?_⟩
      rw [world.config_obey fun config heq => Command.noConfusion heq]
      exact h

/-- Ticks alone leave the signals as they are. -/
theorem findsProceed_ticks (h : (world.network.road? id).map Road.signal = some .proceed)
    (n : Nat) : world.FindsProceed id car (List.replicate n .tick) := by
  have hsignal : ∀ world : World,
      (world.network.road? id).map Road.signal = world.signals[id.index]? := by
    intro world
    rw [signals, List.getElem?_map]
    rfl
  induction n generalizing world with
  | zero => trivial
  | succ n ih =>
      refine ⟨fun _ => h, fun _ => ih ?_⟩
      rw [hsignal] at h ⊢
      exact world.signals_tick ▸ h

/-- An arc as short as can be, with a stride of half that. -/
def stillDeclarations : List Declaration :=
  [.road (.arc ⟨⟨0, 0⟩, 2, 0, 1e-45, false⟩) 1e-45, .entry ⟨0⟩]

/-- A fresh world of a single road. -/
def still : World where
  network := (Plan.ofDeclarations stillDeclarations).network
  config := {}
  draws := .ofSeed 0

theorem fresh_still : still.Fresh := fresh_of_isOk (by decide +kernel) _

/-- However many ticks come, a car does not come off the arc, although the following distance
is above zero and the arc shows proceed. -/
theorem not_leaves : ¬ ∀ (start : World) (id : RoadId) (car : CarId) (before : List Command)
    (command : Command), start.Fresh → car ∈ (start.run before).entering id command →
    ∃ n, ∀ after, start.Spaced (before ++ command :: after) →
      (start.run (before ++ [command])).FindsProceed id car after →
      n ≤ after.count .tick → (start.run (before ++ [command])).stay id car after ≠ none := by
  intro hclaim
  let road : Road := { id := ⟨0⟩, course := .arc ⟨⟨0, 0⟩, 2, 0, 1e-45, false⟩, speed := 1e-45 }
  have hroad : still.network.road? ⟨0⟩ = some road := by decide +kernel
  have hslow : ¬ road.Brisk := by decide +kernel
  have hentering : ⟨0⟩ ∈ (still.run []).entering ⟨0⟩ .spawnWave := by decide +kernel
  have hdistance : 0 ≤ (still.run [.spawnWave]).config.followingDistance := by decide +kernel
  have hshown : ((still.run [.spawnWave]).network.road? ⟨0⟩).map Road.signal = some .proceed := by
    decide +kernel
  obtain ⟨n, hleaves⟩ := hclaim still ⟨0⟩ ⟨0⟩ [] .spawnWave fresh_still hentering
  have hspaced : still.Spaced ([] ++ .spawnWave :: List.replicate n .tick) :=
    ⟨nofun, spaced_ticks hdistance n⟩
  have hproceed : (still.run ([] ++ [.spawnWave])).FindsProceed ⟨0⟩ ⟨0⟩
      (List.replicate n .tick) := findsProceed_ticks hshown n
  have hcount : n ≤ (List.replicate n Command.tick).count .tick :=
    Nat.le_of_eq List.count_replicate_self.symm
  refine hleaves _ hspaced hproceed hcount ?_
  have hfit : road.Fit := fresh_still.start.1.fit road (Network.mem_roads_of_road? hroad)
  obtain ⟨m, hstalled⟩ := Road.exists_stalled hfit hslow
  exact (stay_eq_transit_of_entering fresh_still hspaced hroad hentering fun _ => hproceed).1.trans
    (Road.transit_eq_none (fun k _ => (hstalled k).1) _)

end World

end RoadTraffic
