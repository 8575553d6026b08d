import RoadTraffic.Proofs.Network.Frame
import RoadTraffic.Proofs.Road.Strides

/-!
# Roads in step

How far a stride goes on an arc depends on the radius, but whether a tick keeps a car or
lets it depart depends only on how many strides are left to the end.  So two arcs on which
a car takes as many ticks (`Road.transit`) treat their cars alike.  If the cars on them
have taken as many strides, one car after the other, then a tick

    lets the same cars depart,
    keeps the others, which again have taken as many strides on both

(`InStep.advance`).  The progress itself is another on the two arcs: it is that of so many
strides on each.
-/

namespace RoadTraffic

namespace Road

variable {road a b : Road} {k : Nat}

theorem transit_congr (hcourse : a.course = b.course) (hspeed : a.speed = b.speed) (k : Nat) :
    a.transit k = b.transit k := by
  funext ticks
  induction ticks generalizing k with
  | zero => rfl
  | succ ticks ih =>
      simp only [transit, atEnd_congr hcourse, milestone_congr hcourse hspeed, ih]

/-- On an arc the room ahead of a car does not matter. -/
theorem move_of_arc (h : road.isStraight = false) (d r : Float32) (car : Car) :
    road.move d r car =
      if road.AtEnd car.progress then .depart else .keep (road.strode car) := by
  have hmoves := moves_iff_of_arc (r := r) (p := car.progress) h
  rw [move_eq]
  by_cases hend : road.AtEnd car.progress
  · rw [if_neg (fun hmove => hmoves.mp hmove hend), if_pos (opens_of_arc h), if_pos hend]
  · rw [if_pos (hmoves.mpr hend), if_neg hend]

/-- With as many ticks to go both cars have come to the end, or none has. -/
theorem atEnd_iff_of_transit_eq (h : a.transit k = b.transit k) :
    a.AtEnd (a.milestone k) ↔ b.AtEnd (b.milestone k) := by
  have hnext := congrFun h 1
  simp only [transit, Option.map_none] at hnext
  split at hnext <;> split at hnext <;> simp_all

theorem transit_succ_eq (h : a.transit k = b.transit k) (hclear : ¬ a.AtEnd (a.milestone k)) :
    a.transit (k + 1) = b.transit (k + 1) := by
  funext ticks
  have hlater := congrFun h (ticks + 1)
  rw [transit, transit, if_neg hclear, if_neg (mt (atEnd_iff_of_transit_eq h).mpr hclear)] at hlater
  exact Option.map_injective (add_left_injective 1) hlater

theorem transit_ne_zero (road : Road) (k ticks : Nat) : road.transit k ticks ≠ some 0 := by
  cases ticks with
  | zero => exact (Option.some_ne_none 0).symm
  | succ ticks =>
      rw [transit]
      split
      · simp
      · simp

/-- A car that is not at the end does not depart in the first tick. -/
theorem map_transit_ne_one (road : Road) (k ticks : Nat) :
    (road.transit k ticks).map (· + 1) ≠ some 1 := by
  intro hone
  obtain ⟨m, hm, hsucc⟩ := Option.map_eq_some_iff.mp hone
  obtain rfl : m = 0 := Nat.succ.inj hsucc
  exact transit_ne_zero road k ticks hm

/-- Where a car departs in the same tick on both, it does so however many ticks come. -/
theorem transit_eq_of_eq_some {ticks n : Nat} (ha : a.transit k ticks = some n)
    (hb : b.transit k ticks = some n) : a.transit k = b.transit k := by
  induction ticks generalizing k n with
  | zero => exact nomatch ha
  | succ ticks ih =>
      rw [transit] at ha hb
      funext others
      cases others with
      | zero => rfl
      | succ others =>
          rw [transit, transit]
          by_cases hend : a.AtEnd (a.milestone k) <;> by_cases hend' : b.AtEnd (b.milestone k)
          · rw [if_pos hend, if_pos hend']
          · rw [if_pos hend] at ha
            rw [if_neg hend', ← ha] at hb
            exact absurd hb (map_transit_ne_one b (k + 1) ticks)
          · rw [if_pos hend'] at hb
            rw [if_neg hend, ← hb] at ha
            exact absurd ha (map_transit_ne_one a (k + 1) ticks)
          · rw [if_neg hend] at ha
            rw [if_neg hend'] at hb
            obtain ⟨m, hm, rfl⟩ := Option.map_eq_some_iff.mp ha
            obtain ⟨m', hm', heq⟩ := Option.map_eq_some_iff.mp hb
            obtain rfl : m' = m := Nat.succ.inj heq
            rw [if_neg hend, if_neg hend', ih hm hm']

end Road

/-- Cars, on one road each, that have taken as many strides and have as many ticks to go. -/
def Car.InStep (a b : Road) (c d : Car) : Prop :=
  c.SameTag d ∧ ∃ k, c.progress = a.milestone k ∧ d.progress = b.milestone k ∧
    a.transit k = b.transit k

/-- Two arcs in the same place of a network, on which a car takes as many ticks. -/
structure Road.Paced (a b : Road) : Prop where
  left : a.isStraight = false
  right : b.isStraight = false
  id : a.id = b.id
  successors : a.successors = b.successors
  transit : a.transit 0 = b.transit 0

/-- Two roads that are the same, or two arcs on which cars stand in step. -/
inductive Road.InStep : Road → Road → Prop
  | same (road : Road) : InStep road road
  | arcs {a b : Road} (h : a.Paced b) (hsignal : a.signal = b.signal)
      (hcars : List.Forall₂ (Car.InStep a b) a.cars b.cars) : InStep a b

variable {a b one other : Road} {c d : Car}

theorem Car.inStep_congr (ha : one.bare = a.bare) (hb : other.bare = b.bare) :
    Car.InStep one other = Car.InStep a b := by
  obtain ⟨-, hcourse, hspeed, -⟩ := Road.eq_of_bare_eq ha
  obtain ⟨-, hcourse', hspeed', -⟩ := Road.eq_of_bare_eq hb
  funext c d
  simp only [InStep, Road.milestone_congr hcourse hspeed, Road.milestone_congr hcourse' hspeed',
    Road.transit_congr hcourse hspeed, Road.transit_congr hcourse' hspeed']

theorem Road.Paced.of_bare_eq (h : a.Paced b) (ha : one.bare = a.bare)
    (hb : other.bare = b.bare) : one.Paced other := by
  obtain ⟨hid, hcourse, hspeed, hsuccessors⟩ := Road.eq_of_bare_eq ha
  obtain ⟨hid', hcourse', hspeed', hsuccessors'⟩ := Road.eq_of_bare_eq hb
  refine ⟨?_, ?_, ?_, ?_, ?_⟩
  · rw [isStraight, hcourse]
    exact h.left
  · rw [isStraight, hcourse']
    exact h.right
  · rw [hid, hid', h.id]
  · rw [hsuccessors, hsuccessors', h.successors]
  · rw [transit_congr hcourse hspeed, transit_congr hcourse' hspeed', h.transit]

/-- **Two cars in step, in one tick.**  Both depart, or both take a stride. -/
theorem Car.InStep.move (h : Car.InStep a b c d) (ha : a.isStraight = false)
    (hb : b.isStraight = false) (distance r s : Float32) :
    (a.move distance r c = .depart ∧ b.move distance s d = .depart) ∨
    (a.move distance r c = .keep (a.strode c) ∧ b.move distance s d = .keep (b.strode d) ∧
      Car.InStep a b (a.strode c) (b.strode d)) := by
  obtain ⟨htag, k, hc, hd, htransit⟩ := h
  have hiff := Road.atEnd_iff_of_transit_eq htransit
  rw [Road.move_of_arc ha, Road.move_of_arc hb, hc, hd]
  by_cases hend : a.AtEnd (a.milestone k)
  · exact Or.inl ⟨if_pos hend, if_pos (hiff.mp hend)⟩
  · refine Or.inr ⟨if_neg hend, if_neg (mt hiff.mpr hend), htag, k + 1, ?_, ?_,
      Road.transit_succ_eq htransit hend⟩
    · exact congrArg a.stride hc
    · exact congrArg b.stride hd

/-- The queues of two arcs, in one tick. -/
theorem Road.Paced.part (h : a.Paced b) {cs ds : List Car}
    (hcars : List.Forall₂ (Car.InStep a b) cs ds) (distance r s : Float32) :
    List.Forall₂ (Car.InStep a b) (a.part distance r cs).kept (b.part distance s ds).kept ∧
      List.Forall₂ Car.SameTag (a.part distance r cs).departed
        (b.part distance s ds).departed := by
  induction hcars generalizing r s with
  | nil => exact ⟨.nil, .nil⟩
  | @cons c d _ _ hcar _ ih =>
      obtain ⟨hkept, hdeparted⟩ := ih (roomBehind distance r c) (roomBehind distance s d)
      rw [part_cons, part_cons]
      rcases hcar.move h.left h.right distance r s with ⟨hc, hd⟩ | ⟨hc, hd, hmoved⟩
      · rw [hc, hd, Parted.cons_depart, Parted.cons_depart]
        exact ⟨hkept, .cons hcar.1 hdeparted⟩
      · rw [hc, hd, Parted.cons_keep, Parted.cons_keep]
        exact ⟨.cons hmoved hkept, hdeparted⟩

namespace Road.InStep

/-- What changes the queues and the signals of arcs alike keeps them in step. -/
theorem of_bare_eq (h : a.Paced b) (ha : one.bare = a.bare) (hb : other.bare = b.bare)
    (hsignal : one.signal = other.signal)
    (hcars : List.Forall₂ (Car.InStep a b) one.cars other.cars) : one.InStep other :=
  .arcs (h.of_bare_eq ha hb) hsignal (Car.inStep_congr ha hb ▸ hcars)

theorem id_eq (h : a.InStep b) : a.id = b.id := by
  cases h with
  | same => rfl
  | arcs h => exact h.id

theorem successors_eq (h : a.InStep b) : a.successors = b.successors := by
  cases h with
  | same => rfl
  | arcs h => exact h.successors

theorem setSignal (h : a.InStep b) (signal : Signal) :
    (a.setSignal signal).InStep (b.setSignal signal) := by
  cases h with
  | same => exact .same _
  | arcs h _ hcars => exact of_bare_eq h rfl rfl rfl hcars

theorem toggleSignal (h : a.InStep b) : a.toggleSignal.InStep b.toggleSignal := by
  cases h with
  | same => exact .same _
  | arcs h hsignal hcars => exact of_bare_eq h rfl rfl (congrArg Signal.toggled hsignal) hcars

/-- A car that enters a road has taken no strides on it. -/
theorem receive (h : a.InStep b) (htag : c.SameTag d) : (a.receive c).InStep (b.receive d) := by
  cases h with
  | same =>
      rw [Road.receive_eq htag]
      exact .same _
  | arcs h hsignal hcars =>
      refine of_bare_eq h rfl rfl hsignal (List.rel_append hcars (.cons ?_ .nil))
      exact ⟨htag, 0, rfl, rfl, h.transit⟩

/-- **Roads in step, in one tick.** -/
theorem advance (h : a.InStep b) (distance : Float32) :
    (a.advance distance).1.InStep (b.advance distance).1 ∧
      List.Forall₂ Car.SameTag (a.advance distance).2 (b.advance distance).2 := by
  cases h with
  | same => exact ⟨.same _, Car.forall₂_sameTag _⟩
  | arcs h hsignal hcars =>
      obtain ⟨hkept, hdeparted⟩ := h.part hcars distance distance distance
      rw [← partQueue_eq_part, ← partQueue_eq_part] at hkept hdeparted
      exact ⟨of_bare_eq h rfl rfl hsignal hkept, hdeparted⟩

end Road.InStep

end RoadTraffic
