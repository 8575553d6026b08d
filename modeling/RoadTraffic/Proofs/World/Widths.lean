import RoadTraffic.Proofs.Network.Widths
import RoadTraffic.Proofs.Road.InStep
import RoadTraffic.Proofs.World.Coupling

/-!
# What the widths are to traffic

The widths of the settings are there to be drawn.  No tick looks at them, so the car width
is nothing to traffic.  But the road width is added to the radii of the arcs when the
demonstration network is built, and so it comes into the angle of a stride:

    width    inner radius    angle of a stride    strides to the end of a quarter
      16          20               0.25                       7
      40          32               0.156                     11

Cars then leave the arc in another tick (`Demo.widths_matter`).  This is the only way in:
worlds of two widths with which a car takes as many ticks on each arc stay in step
(`Demo.widths_run`).
-/

namespace RoadTraffic

namespace Coupling

/-- Worlds are compared but for the widths of their settings. -/
def widths : Coupling where
  road := Eq
  draws := Eq
  road_id h := congrArg Road.id h
  receive h htag := h ▸ Road.receive_eq htag _
  setSignal signal h := congrArg (·.setSignal signal) h
  toggleSignal h := congrArg Road.toggleSignal h
  advance _ h := h ▸ ⟨rfl, Car.forall₂_sameTag _⟩
  choose h hdraws := h ▸ hdraws ▸ ⟨rfl, rfl⟩

/-- Worlds are compared road by road, with cars in step. -/
def inStep : Coupling where
  road := Road.InStep
  draws := Eq
  road_id h := h.id_eq
  receive h htag := h.receive htag
  setSignal signal h := h.setSignal signal
  toggleSignal h := h.toggleSignal
  advance followingDistance h := h.advance followingDistance
  choose h hdraws := by
    rw [h.successors_eq, hdraws]
    exact ⟨rfl, rfl⟩

end Coupling

/-- Two worlds compare road by road after a run, and in all else that can be seen of it they
are the same. -/
structure World.Alike (road : Road → Road → Prop) (a b : World) (commands : List Command) :
    Prop where
  roads : List.Forall₂ road (a.run commands).network.roads (b.run commands).network.roads
  stats : (a.run commands).stats = (b.run commands).stats
  nextCar : (a.run commands).nextCar = (b.run commands).nextCar
  replies : a.replies commands = b.replies commands

theorem World.Alike.of_couples {coupling : Coupling} {a b : World} (h : coupling.Couples a b)
    (commands : List Command) : World.Alike coupling.road a b commands := by
  obtain ⟨hfinal, hreplies⟩ := Coupling.run h commands
  exact ⟨hfinal.roads, hfinal.stats, hfinal.nextCar, hreplies⟩

namespace Demo

variable {a b : Config}

/-!
## The networks for two settings
-/

theorem networkOf_eq (h : a.roadWidth = b.roadWidth) : networkOf a = networkOf b := by
  unfold networkOf declarations rows
  rw [h]

/-- The new roads for two settings are the same, but for the radii. -/
theorem roads_networkOf (a b : Config) : List.Forall₂
    (fun x y : Road => x.cars = [] ∧
      ∃ course, x.course.EqButRadius course ∧ y = { x with course })
    (networkOf a).roads (networkOf b).roads := by
  have hdeclarations := declarations_eqButRadius a b
  have hfollows := Declaration.follows_eq hdeclarations
  rw [networkOf, networkOf, (collects_ofDeclarations _).roads_network,
    (collects_ofDeclarations _).roads_network]
  refine forall₂_mapIdx (Declaration.roads_eqButRadius hdeclarations) ?_
  intro index x y hxy
  obtain ⟨hcourse, hspeed⟩ := hxy
  exact ⟨rfl, y.1, hcourse, by rw [hspeed, hfollows]⟩

theorem entryPoints_networkOf (a b : Config) :
    (networkOf a).entryPoints = (networkOf b).entryPoints := by
  have hplan : ∀ plan : Plan, plan.network.entryPoints = plan.entryPoints := fun _ => rfl
  rw [networkOf, networkOf, hplan, hplan, (collects_ofDeclarations _).entryPoints,
    (collects_ofDeclarations _).entryPoints,
    Declaration.entries_eq (declarations_eqButRadius a b)]

/-- Does a car take as many ticks on each road for both settings? -/
def SamePace (a b : Config) : Prop :=
  (networkOf a).roads.map (·.transit 0) = (networkOf b).roads.map (·.transit 0)

/-- It is enough to see the cars depart. -/
theorem samePace_of_transit_eq (ticks : Nat) (h : List.Forall₂
    (fun x y : Road => x = y ∨ (x.transit 0 ticks).isSome = true ∧
      x.transit 0 ticks = y.transit 0 ticks)
    (networkOf a).roads (networkOf b).roads) : SamePace a b := by
  rw [SamePace, ← List.forall₂_eq_eq_eq]
  refine List.rel_map ?_ h
  intro x y hxy
  rcases hxy with rfl | ⟨hsome, hsame⟩
  · rfl
  · obtain ⟨n, hn⟩ := Option.isSome_iff_exists.mp hsome
    exact Road.transit_eq_of_eq_some hn (hsame ▸ hn)

theorem inStep_networkOf (h : SamePace a b) :
    List.Forall₂ Road.InStep (networkOf a).roads (networkOf b).roads := by
  have htransit : List.Forall₂ (fun x y : Road => x.transit 0 = y.transit 0)
      (networkOf a).roads (networkOf b).roads := by
    rw [SamePace, ← List.forall₂_eq_eq_eq, List.forall₂_map_left_iff,
      List.forall₂_map_right_iff] at h
    exact h
  refine List.Forall₂.mp ?_ (roads_networkOf a b) htransit
  intro x y hxy hpace
  obtain ⟨hcars, course, hcourse, rfl⟩ := hxy
  obtain ⟨id, old, speed, cars, successors, signal⟩ := x
  obtain rfl : cars = [] := hcars
  cases hcourse with
  | straight line => exact .same _
  | arc center one other startAngle endAngle counterclockwise =>
      exact .arcs ⟨rfl, rfl, rfl, rfl, hpace⟩ rfl .nil

/-!
## Runs
-/

/-- **The widths and traffic.**  For any settings that pass their check and differ in the
widths only, worlds of the demonstration network are made.  If the road width is the same
too, their roads are the same after every run.  And if it leads to the same number of ticks
on each arc, they are in step: on each straight the same cars stand in the same order at the
same progress, and on each arc at that of as many strides.  Counters and replies are the
same in either case. -/
theorem widths_run (ha : a.check = .ok ()) (hb : b.check = .ok ()) (h : a.SameForTraffic b)
    (draws : Draws) (commands : List Command) :
    ((World.setUp .demo a draws).2 = .ok (start a draws) ∧
      (World.setUp .demo b draws).2 = .ok (start b draws)) ∧
    (a.roadWidth = b.roadWidth → World.Alike Eq (start a draws) (start b draws) commands) ∧
    (SamePace a b → World.Alike Road.InStep (start a draws) (start b draws) commands) := by
  have hentries := entryPoints_networkOf a b
  refine ⟨⟨?_, ?_⟩, fun hwidth => ?_, fun hpace => ?_⟩
  · exact congrArg Prod.snd (setUp_eq_start ha draws)
  · exact congrArg Prod.snd (setUp_eq_start hb draws)
  · have hroads : List.Forall₂ Eq (networkOf a).roads (networkOf b).roads := by
      rw [networkOf_eq hwidth]
      exact List.forall₂_refl _
    have hcouples : Coupling.widths.Couples (start a draws) (start b draws) :=
      ⟨hroads, hentries, h, rfl, rfl, rfl⟩
    exact .of_couples hcouples commands
  · have hcouples : Coupling.inStep.Couples (start a draws) (start b draws) :=
      ⟨inStep_networkOf hpace, hentries, h, rfl, rfl, rfl⟩
    exact .of_couples hcouples commands

/-- A width of 17 in place of 16 leads to as many strides on each arc.  In the run a car leaves
an arc while another is on its way. -/
theorem widths_run_seventeen :
    let other : Config := { roadWidth := 17, carWidth := 3 }
    let commands := [.spawn 20 ⟨4⟩, .setSignal ⟨4⟩ .stop, .spawn 20 ⟨12⟩] ++
      List.replicate 10 .tick
    (({} : Config).check = .ok () ∧ other.check = .ok () ∧ ({} : Config).SameForTraffic other ∧
      SamePace {} other ∧ ((start {} (.ofSeed 0)).run commands).stats.handOffs = 1) ∧
    World.Alike Road.InStep (start {} (.ofSeed 0)) (start other (.ofSeed 0)) commands := by
  have hcheck : ({ roadWidth := 17, carWidth := 3 } : Config).check = .ok () :=
    eq_ok_of_isOk (by decide +kernel)
  have hpace : SamePace {} { roadWidth := 17, carWidth := 3 } :=
    samePace_of_transit_eq 20 (by decide +kernel)
  intro other commands
  refine ⟨⟨World.check_default, hcheck, ⟨rfl, rfl⟩, hpace, by decide +kernel⟩, ?_⟩
  exact (widths_run World.check_default hcheck ⟨rfl, rfl⟩ (.ofSeed 0) commands).2.2 hpace

/-- **The road width matters.**  With a width of 40 a car leaves the first arc later than
with a width of 16. -/
theorem widths_matter :
    let wide : Config := { roadWidth := 40 }
    let commands := .spawn 20 ⟨4⟩ :: List.replicate 8 .tick
    let narrow := (start {} (.ofSeed 0)).run commands
    let other := (start wide (.ofSeed 0)).run commands
    (({} : Config).check = .ok () ∧ wide.check = .ok () ∧ ({} : Config).SameForTraffic wide) ∧
      (World.setUp .demo {} (.ofSeed 0)).2 = .ok (start {} (.ofSeed 0)) ∧
      (World.setUp .demo wide (.ofSeed 0)).2 = .ok (start wide (.ofSeed 0)) ∧
      narrow.stats.handOffs = 1 ∧ other.stats.handOffs = 0 ∧
      narrow.network.queue ⟨3⟩ = [⟨0⟩] ∧ other.network.queue ⟨3⟩ = [] := by
  have hcheck : ({ roadWidth := 40 } : Config).check = .ok () := eq_ok_of_isOk (by decide +kernel)
  intro wide commands narrow other
  refine ⟨⟨World.check_default, hcheck, ⟨rfl, rfl⟩⟩, ?_, ?_, ?_⟩
  · exact congrArg Prod.snd (setUp_eq_start World.check_default _)
  · exact congrArg Prod.snd (setUp_eq_start hcheck _)
  · decide +kernel

end Demo

end RoadTraffic
