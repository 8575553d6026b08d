import RoadTraffic.Proofs.Road.Outcomes

/-!
# Cars that wait on a closed road

On a straight that shows stop no car departs, so a tick leaves every car in its place of the
queue and the room reserved ahead of each place what it is (`advance_of_closed`).  With it stays
the *mark* of a place, the length less the room reserved ahead of it, and all that a tick does
to the car there is

    car  ↦  if it is below the mark, the car a stride further; if not, the same car

(`approach`).  Done again and again this comes to some first strides and to nothing more: there
is a number `k` such that the car has taken `min n k` strides by the n-th tick (`Settles`,
`exists_settles`).
-/

namespace RoadTraffic

namespace Road

variable {road one two : Road} {line : Straight} {d r mark : Float32} {place count k n : Nat}
  {car : Car}

/-- What a tick makes of a car on a closed road, if its mark is `mark`. -/
def approach (road : Road) (mark : Float32) (car : Car) : Car :=
  if car.progress < mark then road.strode car else car

theorem strode_congr (hcourse : one.course = two.course) (hspeed : one.speed = two.speed) :
    one.strode = two.strode := by
  funext car
  rw [strode, strode, poseAfter, poseAfter, stride, stride, hcourse, hspeed]

theorem approach_congr (hcourse : one.course = two.course) (hspeed : one.speed = two.speed) :
    one.approach = two.approach := by
  funext mark car
  rw [approach, approach, strode_congr hcourse hspeed]

theorem progress_strode (hcourse : road.course = .straight line) (car : Car) :
    (road.strode car).progress = Scalar.lesser (car.progress + road.speed) line.length := by
  rw [strode, stride, hcourse]

/-!
## One tick
-/

/-- The room reserved ahead goes by the lengths of the cars ahead. -/
theorem roomAhead_congr {front other : List Car}
    (h : front.map Car.length = other.map Car.length) : roomAhead d front = roomAhead d other := by
  have hlengths : ∀ cars : List Car, roomAhead d cars =
      (cars.map Car.length).foldl (fun reserved length => reserved + (length + d)) d := by
    intro cars
    rw [List.foldl_map]
    rfl
  rw [hlengths, hlengths, h]

/-- A closed road keeps every car, each in its place. -/
theorem getElem?_part_of_not_opens (h : ¬ road.Opens) (cars : List Car) (place : Nat) :
    (road.part d r cars).kept[place]? = (cars[place]?).map fun car =>
      if road.Moves ((cars.take place).foldl (roomBehind d) r) car.progress then road.strode car
      else car := by
  induction cars generalizing r place with
  | nil => rfl
  | cons first behind ih =>
      have hfirst : road.move d r first =
          .keep (if road.Moves r first.progress then road.strode first else first) := by
        rw [move_eq, if_neg h]
        split <;> rfl
      rw [part_cons, hfirst, Parted.cons_keep]
      cases place with
      | zero => rfl
      | succ place => exact ih (r := roomBehind d r first) place

/-- **One tick of a closed road.** -/
theorem advance_of_closed (hcourse : road.course = .straight line) (hclosed : ¬ road.Opens)
    (hcar : road.cars[place]? = some car) :
    (road.advance d).1.cars[place]? = some (road.approach (line.length - road.room d place) car) ∧
      (road.advance d).1.room d place = road.room d place := by
  have hkept := getElem?_part_of_not_opens (d := d) (r := d) hclosed road.cars place
  have hlengths := congrArg (List.map Prod.snd)
    (part_of_not_opens (d := d) (r := d) hclosed road.cars).2
  rw [List.map_map, List.map_map] at hlengths
  rw [← partQueue_eq_part] at hkept hlengths
  constructor
  · rw [advance, hkept, hcar, Option.map_some]
    simp only [moves_of_not_opens hcourse hclosed]
    rfl
  · refine roomAhead_congr ?_
    rw [List.map_take, List.map_take]
    exact congrArg (List.take place) hlengths

/-!
## Tick after tick
-/

/-- Of `count` ticks in a row the first `k` move the car, and none after them. -/
structure Settles (road : Road) (mark : Float32) (car : Car) (count k : Nat) : Prop where
  le : k ≤ count
  moves : ∀ n < k, (road.strode^[n] car).progress < mark
  rests : k < count → ¬ (road.strode^[k] car).progress < mark

theorem exists_settles (road : Road) (mark : Float32) (car : Car) (count : Nat) :
    ∃ k, road.Settles mark car count k := by
  induction count with
  | zero => exact ⟨0, Nat.le_refl 0, nofun, nofun⟩
  | succ count ih =>
      obtain ⟨k, hle, hmoves, hrests⟩ := ih
      by_cases hgoes : k = count ∧ (road.strode^[k] car).progress < mark
      · obtain ⟨rfl, hgoes⟩ := hgoes
        refine ⟨k + 1, Nat.le_refl _, fun n hn => ?_, fun hlt => absurd hlt (Nat.lt_irrefl _)⟩
        rcases Nat.lt_or_eq_of_le (Nat.le_of_lt_succ hn) with hlt | rfl
        · exact hmoves n hlt
        · exact hgoes
      · refine ⟨k, Nat.le_succ_of_le hle, hmoves, fun _ => ?_⟩
        rcases Nat.lt_or_eq_of_le hle with hlt | heq
        · exact hrests hlt
        · exact fun hbelow => hgoes ⟨heq, hbelow⟩

namespace Settles

theorem moves_iff (h : road.Settles mark car count k) (hn : n < count) :
    (road.strode^[min n k] car).progress < mark ↔ n < k := by
  constructor
  · intro hbelow
    by_contra hnot
    rw [Nat.min_eq_right (Nat.le_of_not_lt hnot)] at hbelow
    exact h.rests (Nat.lt_of_le_of_lt (Nat.le_of_not_lt hnot) hn) hbelow
  · intro hlt
    rw [Nat.min_eq_left (Nat.le_of_lt hlt)]
    exact h.moves n hlt

/-- The car has taken a stride in each of the first `k` ticks. -/
theorem approach_iterate (h : road.Settles mark car count k) (hn : n ≤ count) :
    (road.approach mark)^[n] car = road.strode^[min n k] car := by
  induction n with
  | zero => rw [Nat.zero_min, Function.iterate_zero_apply, Function.iterate_zero_apply]
  | succ n ih =>
      have hlt : n < count := hn
      rw [Function.iterate_succ_apply', ih (Nat.le_of_lt hlt), approach]
      simp only [h.moves_iff hlt]
      split
      · next hmoves =>
          rw [← Function.iterate_succ_apply' road.strode, Nat.min_eq_left (Nat.le_of_lt hmoves),
            Nat.min_eq_left hmoves]
      · next hrests =>
          rw [Nat.min_eq_right (Nat.le_of_not_lt hrests),
            Nat.min_eq_right (Nat.le_succ_of_le (Nat.le_of_not_lt hrests))]

/-- The last stride began below the mark, if there was one. -/
theorem progress_eq (h : road.Settles mark car count k) (hcourse : road.course = .straight line) :
    (road.strode^[k] car).progress = car.progress ∨ ∃ q, q < mark ∧
      (road.strode^[k] car).progress = Scalar.lesser (q + road.speed) line.length := by
  cases k with
  | zero => exact Or.inl rfl
  | succ k =>
      refine Or.inr ⟨_, h.moves k (Nat.lt_succ_self k), ?_⟩
      rw [Function.iterate_succ_apply', progress_strode hcourse]

end Settles

/-- A car that a tick leaves as it is stays so in all ticks to come. -/
theorem approach_iterate_eq {m : Nat} (hmn : n ≤ m)
    (h : (road.approach mark)^[n + 1] car = (road.approach mark)^[n] car) :
    (road.approach mark)^[m] car = (road.approach mark)^[n] car := by
  obtain ⟨more, rfl⟩ := Nat.exists_eq_add_of_le' hmn
  rw [Function.iterate_succ_apply'] at h
  rw [Function.iterate_add_apply]
  exact Function.IsFixedPt.iterate h more

end Road

end RoadTraffic
