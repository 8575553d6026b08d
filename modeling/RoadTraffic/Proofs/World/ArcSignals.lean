import RoadTraffic.Proofs.World.Coupling

/-!
# The signal of an arc does nothing

An arc shows a signal like any road, and no car looks at it.  So two worlds that are the
same but for the signals of their arcs stay so under the same commands
(`arcSignals_run`).  The difference itself need not go away: a toggle flips it, and setting
the signal of the arc makes both the same.

What must not carry it over to the rest is a departure from the arc; a straight road gets
its cars, and the draws their turn, from there.
-/

namespace RoadTraffic

/-- Two roads that are the same, but for the signal if they are arcs. -/
inductive Road.EqButArcSignal : Road → Road → Prop
  | same (road : Road) : EqButArcSignal road road
  | arc (road : Road) (signal : Signal) (h : road.isStraight = false) :
      EqButArcSignal road (road.setSignal signal)

namespace Road.EqButArcSignal

variable {a b : Road}

theorem setSignal (h : a.EqButArcSignal b) (signal : Signal) :
    (a.setSignal signal).EqButArcSignal (b.setSignal signal) := by
  cases h with
  | same => exact .same _
  | arc => exact .same _

theorem toggleSignal (h : a.EqButArcSignal b) : a.toggleSignal.EqButArcSignal b.toggleSignal := by
  cases h with
  | same => exact .same _
  | arc signal harc => exact .arc a.toggleSignal signal.toggled harc

theorem receive (h : a.EqButArcSignal b) {c d : Car} (htag : c.SameTag d) :
    (a.receive c).EqButArcSignal (b.receive d) := by
  rw [receive_eq htag]
  cases h with
  | same => exact .same _
  | arc signal harc => exact .arc (a.receive d) signal harc

/-- The queue of an arc is parted without a look at the signal. -/
theorem partQueue_setSignal (harc : a.isStraight = false) (signal : Signal)
    (followingDistance : Float32) :
    (a.setSignal signal).partQueue followingDistance = a.partQueue followingDistance := by
  cases hcourse : a.course with
  | straight line => exact nomatch (isStraight_of_straight hcourse).symm.trans harc
  | arc arc =>
      have hother : (a.setSignal signal).course = .arc arc := hcourse
      rw [partQueue_arc hcourse, partQueue_arc hother]
      rfl

theorem advance (h : a.EqButArcSignal b) (followingDistance : Float32) :
    (a.advance followingDistance).1.EqButArcSignal (b.advance followingDistance).1 ∧
      (a.advance followingDistance).2 = (b.advance followingDistance).2 := by
  cases h with
  | same => exact ⟨.same _, rfl⟩
  | arc signal harc =>
      unfold Road.advance
      rw [partQueue_setSignal harc signal followingDistance]
      exact ⟨.arc _ signal harc, rfl⟩

/-- The straight roads among them are the same. -/
theorem filter_isStraight {left right : List Road}
    (h : List.Forall₂ EqButArcSignal left right) :
    left.filter Road.isStraight = right.filter Road.isStraight := by
  induction h with
  | nil => rfl
  | @cons road _ _ _ hroad _ ih =>
      cases hroad with
      | same => rw [List.filter_cons, List.filter_cons, ih]
      | arc signal harc =>
          have hother : (road.setSignal signal).isStraight = false := harc
          rw [List.filter_cons_of_neg (ne_true_of_eq_false harc),
            List.filter_cons_of_neg (ne_true_of_eq_false hother), ih]

end Road.EqButArcSignal

/-- Worlds are compared but for the signals of their arcs. -/
def Coupling.arcSignals : Coupling where
  road := Road.EqButArcSignal
  draws := Eq
  road_id h := by cases h <;> rfl
  receive h htag := h.receive htag
  setSignal signal h := h.setSignal signal
  toggleSignal h := h.toggleSignal
  advance followingDistance h := by
    obtain ⟨hroad, hdeparted⟩ := h.advance followingDistance
    rw [hdeparted]
    exact ⟨hroad, Car.forall₂_sameTag _⟩
  choose h hdraws := by
    subst hdraws
    cases h <;> exact ⟨rfl, rfl⟩

namespace World

/-- Two worlds in which traffic is the same. -/
structure SameTraffic (a b : World) : Prop where
  /-- The cars of each road, with their lengths, progress and poses. -/
  queues : a.network.roads.map Road.cars = b.network.roads.map Road.cars
  /-- The straight roads are the same altogether, with their signals. -/
  straights : a.network.roads.filter Road.isStraight = b.network.roads.filter Road.isStraight
  stats : a.stats = b.stats
  nextCar : a.nextCar = b.nextCar
  draws : a.draws = b.draws

variable {a b : World}

theorem SameTraffic.of_couples (h : Coupling.arcSignals.Couples a b) : a.SameTraffic b := by
  refine ⟨?_, Road.EqButArcSignal.filter_isStraight h.roads, h.stats, h.nextCar, h.draws⟩
  rw [← List.forall₂_eq_eq_eq]
  refine List.rel_map ?_ h.roads
  intro x y hroad
  cases hroad <;> rfl

/-- **The signal of an arc does nothing.**  Two worlds that are the same but for the
signals of their arcs obey every run of commands with the same replies and the same
traffic. -/
theorem arcSignals_run (h : Coupling.arcSignals.Couples a b) (commands : List Command) :
    (a.run commands).SameTraffic (b.run commands) ∧
      a.replies commands = b.replies commands := by
  obtain ⟨hfinal, hreplies⟩ := Coupling.run h commands
  exact ⟨.of_couples hfinal, hreplies⟩

/-- The arc of the fork shows stop in one of two worlds.  After a run in which a car has gone
over it, the arc still shows in one what it does not show in the other. -/
theorem arcSignals_run_fork :
    let start : World := { fork with draws := .ofSeed 2 }
    let other : World := { start with network := start.network.modifyRoad ⟨1⟩ (·.setSignal .stop) }
    (Coupling.arcSignals.Couples start other ∧
      (start.run refusals).network.roads.map Road.signal = [.proceed, .proceed, .proceed] ∧
      (other.run refusals).network.roads.map Road.signal = [.proceed, .stop, .proceed] ∧
      (start.run refusals).stats.handOffs = 3) ∧
    (start.run refusals).SameTraffic (other.run refusals) ∧
      start.replies refusals = other.replies refusals := by
  intro start other
  have hroads : List.Forall₂ Road.EqButArcSignal start.network.roads other.network.roads :=
    .cons (.same _) (.cons (.arc _ .stop rfl) (.cons (.same _) .nil))
  have hcouples : Coupling.arcSignals.Couples start other :=
    ⟨hroads, rfl, ⟨rfl, rfl⟩, rfl, rfl, rfl⟩
  exact ⟨⟨hcouples, by decide +kernel, by decide +kernel, by decide +kernel⟩,
    arcSignals_run hcouples refusals⟩

end World

end RoadTraffic
