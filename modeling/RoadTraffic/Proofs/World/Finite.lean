import RoadTraffic.Proofs.Road.Finite
import RoadTraffic.Proofs.World.Strides

/-!
# Runs without overflow

If all roads of a network are tame, every car has a finite progress, position and heading
at every point of every run, whatever the signals and the settings do (`finite_run`).

The checks that a network has passed do not see to that.  The road of `endless` has finite
ends and a finite speed, but the square of its extent overflows, so its length is infinite
and ends no stride; its second stride overflows too (`not_finite_run`).
-/

namespace RoadTraffic

open Binary32

namespace World

/-- **Tame roads keep cars finite.** -/
theorem finite_run {start : World} (h : start.Fresh)
    (htame : ∀ road ∈ start.network.roads, road.Tame) (commands : List Command) :
    ∀ car ∈ (start.run commands).cars, car.Finite := by
  intro car hcar
  obtain ⟨road, hmem, hcar⟩ := List.mem_flatMap.mp hcar
  obtain ⟨index, hroad⟩ := List.mem_iff_getElem?.mp hmem
  have hfound : (start.run commands).network.road? ⟨index⟩ = some road := hroad
  have hfit := Reachable.fit ⟨start, commands, h, rfl⟩ hfound
  obtain ⟨was, hwas, hbare⟩ :=
    Network.exists_road?_of_frame_eq (start.frame_run commands).symm hfound
  obtain ⟨-, hcourse, hspeed, -⟩ := Road.eq_of_bare_eq hbare
  have hroadTame := (htame was (Network.mem_roads_of_road? hwas)).congr hcourse hspeed
  obtain ⟨before, command, since, -, htracked⟩ := exists_tracked h commands hfound hcar
  obtain ⟨hprogress, hpose⟩ := Road.finite_milestone hfit hroadTame fun hnot j hj => by
    obtain ⟨hcount, hclear⟩ := htracked.arc hnot
    exact hclear j (hcount ▸ hj)
  exact ⟨htracked.progress ▸ hprogress, htracked.pose ▸ hpose⟩

/-- The roads of the fork are tame, and cars drive on the straight and on the arc. -/
theorem finite_run_fork :
    let start : World := { fork with draws := .ofSeed 2 }
    let commands : List Command :=
      [.spawnWave, .tick, .tick, .tick, .spawnWave, .tick, .tick, .spawnWave]
    start.Fresh ∧ (∀ road ∈ start.network.roads, road.Tame) ∧
      (start.run commands).network.roads.map (·.cars.map Car.progress) = [[100, 0], [1], []] ∧
      ∀ car ∈ (start.run commands).cars, car.Finite := by
  intro start commands
  have htame : ∀ road ∈ start.network.roads, road.Tame := by decide +kernel
  exact ⟨fresh_fork_draws _, htame, by decide +kernel,
    finite_run (fresh_fork_draws _) htame commands⟩

/-- A straight whose length overflows, although its ends do not. -/
def endlessDeclarations : List Declaration :=
  [.road (.straight ⟨⟨0, 0⟩, ⟨1e38, 0⟩⟩) 1e38, .entry ⟨0⟩]

/-- A fresh world of a single road. -/
def endless : World where
  network := (Plan.ofDeclarations endlessDeclarations).network
  config := {}
  draws := .ofSeed 0

theorem fresh_endless : endless.Fresh := fresh_of_isOk (by decide +kernel) _

/-- A car that should wait at the end of the road, where its first stride leads, is past all
finite numbers after the fourth one. -/
theorem not_finite_run : ¬ ∀ (start : World) (commands : List Command), start.Fresh →
    ∀ car ∈ (start.run commands).cars, car.Finite := by
  intro hclaim
  have hspec : (endless.run [.setSignal ⟨0⟩ .stop, .spawnWave, .tick, .tick, .tick,
      .tick]).cars.map (fun car => (car.progress, car.pose)) =
        [(infinity false, ⟨⟨infinity false, nan⟩, 0⟩)] := by decide +kernel
  obtain ⟨car, others, hcars, hcar, -⟩ := List.map_eq_cons_iff.mp hspec
  have hfinite := (hclaim endless _ fresh_endless car (hcars ▸ List.mem_cons_self)).progress
  have hinfinite : (infinity false).isFinite = false := by decide +kernel
  rw [(Prod.mk.inj hcar).1, hinfinite] at hfinite
  exact Bool.false_ne_true hfinite

end World

end RoadTraffic
