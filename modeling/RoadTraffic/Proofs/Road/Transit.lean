import RoadTraffic.Proofs.Road.QueueOrder

/-!
# One car on an open road

On a road that is open at a tick the room reserved for other cars does not matter: the
tick takes a car one stride further if it has not come to the end (`AtEnd`), and lets
it depart if it has.  This depends on nothing but its own progress (`advance_of_opens`).

So a car that finds its road open stands at the milestones of the road one after the
other, and departs in the first tick that finds it at a milestone at the end
(`transit`).
-/

namespace RoadTraffic

open Binary32

namespace Road

/-- Has a car at progress `p` come to the end of the road? -/
def AtEnd (road : Road) (p : Float32) : Prop :=
  match road.course with
  | .straight line => ¬ p < line.length
  | .arc arc => ¬ p.abs < arc.span

variable {road : Road} {d r p : Float32} {car : Car}

instance (road : Road) (p : Float32) : Decidable (road.AtEnd p) :=
  match hcourse : road.course with
  | .straight line => decidable_of_iff (¬ p < line.length) (by rw [AtEnd, hcourse])
  | .arc arc => decidable_of_iff (¬ p.abs < arc.span) (by rw [AtEnd, hcourse])

theorem atEnd_congr {a b : Road} (hcourse : a.course = b.course) : a.AtEnd = b.AtEnd := by
  funext p
  rw [AtEnd, AtEnd, hcourse]

/-- On an open road a car moves unless it has come to the end. -/
theorem moves_iff (hopen : road.Opens) (h0 : 0 ≤ r) : road.Moves r p ↔ ¬ road.AtEnd p := by
  unfold Opens at hopen
  unfold Moves AtEnd
  cases hcourse : road.course with
  | straight line =>
      rw [hcourse] at hopen
      refine Iff.trans ⟨fun hmoves => ?_, fun hclear => Or.inr ⟨hclear, hopen⟩⟩ not_not.symm
      rcases hmoves with hroom | ⟨hclear, -⟩
      · obtain ⟨-, hnum, -⟩ := lt_iff.mp hroom
        exact lt_of_lt_of_le hroom (sub_le h0 hnum)
      · exact hclear
  | arc arc => exact not_not.symm

/-- A tick does to each car of the queue what is done to it with some room ahead. -/
theorem exists_room_of_mem (road : Road) {cars : List Car} (h0 : 0 ≤ r) (hd : 0 ≤ d)
    (hlength : ∀ car ∈ cars, 0 ≤ car.length) (hcar : car ∈ cars) :
    ∃ r', 0 ≤ r' ∧
      (∀ moved, road.move d r' car = .keep moved → moved ∈ (road.part d r cars).kept) ∧
      (road.move d r' car = .depart → car ∈ (road.part d r cars).departed) := by
  induction cars generalizing r with
  | nil => exact nomatch hcar
  | cons first behind ih =>
      obtain ⟨hfirst, hbehind⟩ := List.forall_mem_cons.mp hlength
      rw [part_cons]
      rcases List.mem_cons.mp hcar with rfl | hmem
      · refine ⟨r, h0, fun moved hmove => ?_, fun hmove => ?_⟩ <;> rw [hmove]
        · exact List.mem_cons_self
        · exact List.mem_cons_self
      · obtain ⟨r', h0', hkept, hdeparted⟩ :=
          ih (le_trans h0 (le_roomBehind h0 hd hfirst)) hbehind hmem
        refine ⟨r', h0', fun moved hmove => ?_, fun hmove => ?_⟩
        · have hin := hkept moved hmove
          cases road.move d r first with
          | keep _ => exact List.mem_cons_of_mem _ hin
          | depart => exact hin
        · have hin := hdeparted hmove
          cases road.move d r first with
          | keep _ => exact hin
          | depart => exact List.mem_cons_of_mem _ hin

/-- No identity both stays and departs. -/
theorem not_mem_departed (hdistinct : (road.cars.map Car.id).Nodup) (d : Float32) {id : CarId}
    (h : id ∈ (road.advance d).1.cars.map Car.id) : id ∉ (road.advance d).2.map Car.id := by
  have hperm := (road.part_perm d d road.cars).map Prod.fst
  rw [← partQueue_eq_part, List.map_append, List.map_map, List.map_map, List.map_map] at hperm
  exact fun hleft => (List.nodup_append'.mp (hperm.nodup_iff.mpr hdistinct)).2.2 h hleft

/-- **One car in a tick that finds the road open.** -/
theorem advance_of_opens (hopen : road.Opens) (hd : 0 ≤ d)
    (hlength : ∀ car ∈ road.cars, 0 ≤ car.length) (hdistinct : (road.cars.map Car.id).Nodup)
    (hcar : car ∈ road.cars) :
    (road.AtEnd car.progress ∧ car.id ∈ (road.advance d).2.map Car.id) ∨
      (¬ road.AtEnd car.progress ∧ car.id ∉ (road.advance d).2.map Car.id ∧
        ∃ moved ∈ (road.advance d).1.cars, moved.id = car.id ∧
          moved.progress = road.stride car.progress) := by
  obtain ⟨r, h0, hkept, hdeparted⟩ := exists_room_of_mem road hd hd hlength hcar
  rw [← partQueue_eq_part] at hkept hdeparted
  rcases move_cases road d r car with
    ⟨hmoves, moved, hmove, hid, -, hprogress⟩ | ⟨hstays, -, hmove⟩ | ⟨-, hclosed, -⟩
  · have hstands := hkept moved hmove
    refine Or.inr ⟨(moves_iff hopen h0).mp hmoves, ?_, moved, hstands, hid, hprogress⟩
    exact not_mem_departed hdistinct d (hid ▸ List.mem_map_of_mem hstands)
  · exact Or.inl ⟨not_not.mp (mt (moves_iff hopen h0).mpr hstays),
      List.mem_map_of_mem (hdeparted hmove)⟩
  · exact absurd hopen hclosed

/-!
## The time it takes
-/

/-- The number of the tick in which a car departs that has taken `k` strides and finds the
road open, if so many ticks come. -/
def transit (road : Road) (k : Nat) : (ticks : Nat) → Option Nat
  | 0 => none
  | ticks + 1 =>
    if road.AtEnd (road.milestone k) then some 1 else (road.transit (k + 1) ticks).map (· + 1)

/-- A car departs in the tick after it has come to the end. -/
theorem transit_eq_ite {k K : Nat} (hk : k ≤ K) (hend : road.AtEnd (road.milestone K))
    (hbefore : ∀ j, k ≤ j → j < K → ¬ road.AtEnd (road.milestone j)) (ticks : Nat) :
    road.transit k ticks = if K - k < ticks then some (K - k + 1) else none := by
  induction ticks generalizing k with
  | zero => rw [transit, if_neg (Nat.not_lt_zero _)]
  | succ ticks ih =>
      rw [transit]
      rcases Nat.eq_or_lt_of_le hk with rfl | hlt
      · rw [if_pos hend, Nat.sub_self, if_pos (Nat.succ_pos _)]
      · have hsub : K - k = K - (k + 1) + 1 := by omega
        rw [if_neg (hbefore k (Nat.le_refl k) hlt),
          ih hlt fun j hj => hbefore j (Nat.le_of_succ_le hj), hsub]
        simp only [Nat.add_lt_add_iff_right]
        split <;> rfl

/-- A car that never comes to the end does not depart. -/
theorem transit_eq_none {k : Nat} (h : ∀ j, k ≤ j → ¬ road.AtEnd (road.milestone j))
    (ticks : Nat) : road.transit k ticks = none := by
  induction ticks generalizing k with
  | zero => rfl
  | succ ticks ih =>
      rw [transit, if_neg (h k (Nat.le_refl k)), ih fun j hj => h j (Nat.le_of_succ_le hj)]
      rfl

end Road

end RoadTraffic
