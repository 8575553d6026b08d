import RoadTraffic.Proofs.Road.Sweeping
import RoadTraffic.Proofs.World.Poses

/-!
# Which part of a circle cars travel

A car on an arc is shown where its last stride began, and that is between the angles at which
the arc starts and ends.  It travels in the direction that the flag of the arc names, until the
arc ends (`swept_run`).

The second angle of the arc is not always where it ends.  If the flag names the direction
that leads there, the cars are between the two angles of the arc, and the arc ends at the
second one up to rounding.  Otherwise it turns away from the second angle, to the mirror image
of it.  So do the cars on `backward`, an arc from 0 to 1 that is travelled counterclockwise, and
comes to its end at -1 (`not_delimits`).
-/

namespace RoadTraffic

open Binary32

namespace World

/-- Which angles the cars of a run travel on arcs. -/
structure Swept (start : World) (commands : List Command) : Prop where
  /-- A car is shown where the stride in its last tick began, at the start of the arc if there
  was none.  That is before the end of the arc, and also before the second angle if the flag
  leads there. -/
  cars : ∀ id road arc, (start.run commands).network.road? id = some road →
    road.course = .arc arc → ∀ car ∈ road.cars, ∃ before command since,
      commands = before ++ command :: since ∧ Sojourn start id car.id before command since ∧
      car.progress = road.milestone (since.count .tick) ∧
      ∃ q, q = road.milestone (since.count .tick - 1) ∧
        car.pose = ⟨arc.pointAt q, arc.headingAt q⟩ ∧ arc.Covers (arc.startAngle + q) ∧
        (arc.Agrees → arc.Delimits (arc.startAngle + q))
  /-- Later strides begin further in the direction of the flag. -/
  onward : ∀ id road arc, (start.run commands).network.road? id = some road →
    road.course = .arc arc → ∀ j k, j ≤ k →
      arc.Leads (arc.startAngle + road.milestone j) (arc.startAngle + road.milestone k)
  /-- The arc ends at its second angle up to rounding if the flag leads there, and otherwise at
  the mirror image of it, unless the end overflows. -/
  ends : ∀ id road arc, (start.run commands).network.road? id = some road →
    road.course = .arc arc →
      road.course.endPoint = arc.center.offset arc.last arc.radius ∧
      (arc.last.isFinite = true →
        |value arc.last - (if arc.Agrees then value arc.endAngle
            else 2 * value arc.startAngle - value arc.endAngle)| ≤
          (|value arc.startAngle| + |value arc.endAngle|) / 2 ^ 22)

variable {start : World}

/-- **The part of the circle that is travelled.**  In every run the cars on an arc are between
its start and its end, and travel in the direction of its flag. -/
theorem swept_run (h : start.Fresh) (commands : List Command) : Swept start commands := by
  have hreachable : (start.run commands).Reachable := ⟨start, commands, h, rfl⟩
  refine ⟨?_, ?_, ?_⟩
  · intro id road arc hroad hcourse car hcar
    have hfit := hreachable.fit hroad
    have harc := hfit.arc hcourse
    obtain ⟨before, command, since, hsplit, hsojourn, hprogress, hpose, hclear⟩ :=
      exists_shown_at h hroad hcourse hcar
    have honward := Road.onward_milestone hfit hcourse (since.count .tick - 1)
    rw [Road.AtEnd, hcourse, not_not] at hclear
    exact ⟨before, command, since, hsplit, hsojourn, hprogress, _, rfl, hpose,
      harc.covers honward hclear, fun hagrees => harc.delimits hagrees honward hclear⟩
  · intro id road arc hroad hcourse j k hle
    have hfit := hreachable.fit hroad
    exact (hfit.arc hcourse).leads_add (Road.leads_milestone hfit hcourse hle)
  · intro id road arc hroad hcourse
    have harc := (hreachable.fit hroad).arc hcourse
    refine ⟨congrArg Course.endPoint hcourse, fun hlast => ?_⟩
    rw [← harc.finish_eq]
    exact harc.last_error hlast

/-- A car on the arc behind the fork, which is travelled from 0 to 1 as its flag says. -/
theorem swept_run_fork :
    let start : World := { fork with draws := .ofSeed 2 }
    let commands : List Command :=
      [.setSignal ⟨0⟩ .stop, .spawnWave, .tick, .tick, .tick, .setSignal ⟨0⟩ .proceed, .tick,
        .spawnWave, .tick, .tick]
    start.Fresh ∧
      (start.run commands).network.roads.map (·.cars.map Car.progress) = [[100], [1], []] ∧
      Swept start commands := by
  intro start commands
  exact ⟨fresh_fork_draws _, by decide +kernel, swept_run (fresh_fork_draws _) commands⟩

/-!
## An arc whose flag leads away from its second angle
-/

/-- From 0 to 1, but counterclockwise. -/
def backwardArc : Arc := ⟨⟨0, 0⟩, 10, 0, 1, true⟩

/-- A fresh world of a single road. -/
def backward : World where
  network := (Plan.ofDeclarations [.road (.arc backwardArc) 1, .entry ⟨0⟩]).network
  config := {}
  draws := .ofSeed 0

theorem fresh_backward : backward.Fresh := fresh_of_isOk (by decide +kernel) _

/-- After its second tick a car is not shown between the two angles of the arc. -/
theorem not_delimits : ¬ ∀ (start : World) (commands : List Command) (id : RoadId) (road : Road)
    (arc : Arc), start.Fresh → (start.run commands).network.road? id = some road →
    road.course = .arc arc → ∀ car ∈ road.cars, ∃ q,
      car.pose = ⟨arc.pointAt q, arc.headingAt q⟩ ∧ arc.Delimits (arc.startAngle + q) := by
  intro hclaim
  let commands : List Command := [.spawnWave, .tick, .tick]
  let road : Road := ((backward.run commands).network.road? ⟨0⟩).get (by decide +kernel)
  let car : Car := road.cars.head (by decide +kernel)
  have hroad : (backward.run commands).network.road? ⟨0⟩ = some road := (Option.some_get _).symm
  have hcourse : road.course = .arc backwardArc := by decide +kernel
  have hcar : car ∈ road.cars := List.head_mem _
  -- The car faces to the left of where it has faced at the start.
  have hbehind : car.pose.heading < backwardArc.startAngle + Trigonometry.halfPi := by
    decide +kernel
  obtain ⟨q, hpose, hdelimits⟩ :=
    hclaim backward commands ⟨0⟩ road backwardArc fresh_backward hroad hcourse car hcar
  have hheading : car.pose.heading = backwardArc.headingAt q := congrArg Pose.heading hpose
  rw [hheading] at hbehind
  obtain ⟨hnum, hnan, hlt⟩ := lt_iff.mp hbehind
  rcases hdelimits with ⟨hstart, -⟩ | ⟨hend, hstart⟩
  · obtain ⟨-, -, hle⟩ := le_iff.mp (add_le_add_right hstart hnan hnum)
    exact absurd hlt (Int.not_lt.mpr hle)
  · have hback : ¬ backwardArc.endAngle ≤ backwardArc.startAngle := by decide +kernel
    exact hback (le_trans hend hstart)

end World

end RoadTraffic
