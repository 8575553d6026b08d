import RoadTraffic.Proofs.Number.Error
import RoadTraffic.Proofs.Road.Arriving

/-!
# Where cars come to rest behind a stop

On a straight that shows stop a car takes strides as long as it is below its *mark*, the
length less the room reserved ahead of it.  It tests its progress before the stride, and
the stride is a whole one, so it comes to rest at the first milestone that is not below
the mark, and not at the mark (`RestsAt`).  It may also stand below its mark, where the next
stride is lost to rounding (`StallsAt`), but not on a brisk road (`Brisk.not_stallsAt`).

The marks of two cars, one right behind the other, are the length of the car ahead and the
following distance apart.  The car ahead rests at its mark or past it, and the one behind
may come past its own by almost a stride.  So this is what is kept between them,

    progress a - length a - progress b  ≥  followingDistance - speed,

up to rounding, and the whole following distance only if `b` comes to rest on its mark
(`keepsGap_of_restsAt`).  Nothing is kept if `b` still stands at the start of the road, or if
`a` stalls below its mark.
-/

namespace RoadTraffic

open Binary32

namespace Road

variable {road : Road} {line : Straight} {d r : Float32} {car a b : Car}
  {cars front back : List Car}

/-- The room reserved ahead of a car, by the cars before it in the queue. -/
def roomAhead (d : Float32) (front : List Car) : Float32 := front.foldl (roomBehind d) d

/-- Has the car taken all its strides from below its mark? -/
def Comes (road : Road) (line : Straight) (reserved : Float32) (car : Car) : Prop :=
  ∃ k, car.progress = road.milestone k ∧ ∀ j < k, road.milestone j < line.length - reserved

/-- Does the car stand at the first milestone that is not below its mark? -/
def RestsAt (road : Road) (line : Straight) (reserved : Float32) (car : Car) : Prop :=
  ∃ k, car.progress = road.milestone k ∧ ¬ road.milestone k < line.length - reserved ∧
    ∀ j < k, road.milestone j < line.length - reserved

/-- Does the car stand below its mark, and a stride leaves it where it is? -/
def StallsAt (road : Road) (line : Straight) (reserved : Float32) (car : Car) : Prop :=
  ∃ k, car.progress = road.milestone k ∧ road.milestone k < line.length - reserved ∧
    road.stride (road.milestone k) = road.milestone k

/-- Have all cars of a queue taken their strides from below their marks, with `reserved`
room ahead of the first? -/
def Approached (road : Road) (line : Straight) (d : Float32) : (reserved : Float32) →
    List Car → Prop
  | _, [] => True
  | reserved, car :: behind =>
    road.Comes line reserved car ∧ road.Approached line d (roomBehind d reserved car) behind

theorem approached_congr {one two : Road} (hcourse : one.course = two.course)
    (hspeed : one.speed = two.speed) : one.Approached = two.Approached := by
  have hsame : one.milestone = two.milestone := funext (milestone_congr hcourse hspeed)
  funext line d r cars
  induction cars generalizing r with
  | nil => rfl
  | cons car behind ih => rw [Approached, Approached, Comes, Comes, hsame, ih]

/-!
## One tick
-/

theorem moves_of_not_opens (hcourse : road.course = .straight line) (hclosed : ¬ road.Opens)
    (p : Float32) : road.Moves r p ↔ p < line.length - r := by
  rw [Opens, hcourse] at hclosed
  rw [Moves, hcourse]
  exact or_iff_left fun hboth => hclosed hboth.2

/-- A tick that finds the road closed. -/
theorem Approached.part (h : road.Approached line d r cars)
    (hcourse : road.course = .straight line) (hclosed : ¬ road.Opens) :
    road.Approached line d r (road.part d r cars).kept := by
  induction cars generalizing r with
  | nil => trivial
  | cons car behind ih =>
      obtain ⟨⟨k, hat, hbelow⟩, hbehind⟩ := h
      have hrest := ih hbehind
      rw [part_cons, move_eq]
      by_cases hmoves : road.Moves r car.progress
      · rw [if_pos hmoves, Parted.cons_keep]
        rw [moves_of_not_opens hcourse hclosed, hat] at hmoves
        refine ⟨⟨k + 1, ?_, fun j hj => ?_⟩, hrest⟩
        · rw [strode, hat, milestone]
        · rcases Nat.lt_or_eq_of_le (Nat.le_of_lt_succ hj) with hlt | rfl
          · exact hbelow j hlt
          · exact hmoves
      · rw [if_neg hmoves, if_neg hclosed, Parted.cons_keep]
        exact ⟨⟨k, hat, hbelow⟩, hrest⟩

/-- Cars at the start have taken no stride. -/
theorem approached_of_start (h : ∀ car ∈ cars, car.progress = 0) :
    road.Approached line d r cars := by
  induction cars generalizing r with
  | nil => trivial
  | cons car behind ih =>
      obtain ⟨hcar, hbehind⟩ := List.forall_mem_cons.mp h
      exact ⟨⟨0, hcar, nofun⟩, ih hbehind⟩

theorem Approached.append (h : road.Approached line d r cars) {entered : List Car}
    (hentered : ∀ car ∈ entered, car.progress = 0) :
    road.Approached line d r (cars ++ entered) := by
  induction cars generalizing r with
  | nil => exact approached_of_start hentered
  | cons car behind ih => exact ⟨h.1, ih h.2⟩

/-!
## Cars at rest
-/

theorem Approached.comes (h : road.Approached line d r (front ++ car :: back)) :
    road.Comes line (front.foldl (roomBehind d) r) car := by
  induction front generalizing r with
  | nil => exact h.1
  | cons first front ih => exact ih h.2

/-- In a tick that leaves all cars of a closed road in place, a stride leads nowhere. -/
theorem stride_eq_of_part (hclosed : ¬ road.Opens)
    (hrest : (road.part d r (front ++ car :: back)).kept.map Car.progress =
      (front ++ car :: back).map Car.progress)
    (hmoves : road.Moves (front.foldl (roomBehind d) r) car.progress) :
    road.stride car.progress = car.progress := by
  induction front generalizing r with
  | nil =>
      rw [List.foldl_nil] at hmoves
      rw [List.nil_append, part_cons, move_eq, if_pos hmoves, Parted.cons_keep] at hrest
      exact (List.cons.inj hrest).1
  | cons first front ih =>
      refine ih ?_ hmoves
      rw [List.cons_append, part_cons, move_eq, if_neg hclosed] at hrest
      split at hrest
      · exact (List.cons.inj hrest).2
      · exact (List.cons.inj hrest).2

/-- **Where a car rests.**  If a tick leaves all cars in place, each has come to its mark or
stalls below it. -/
theorem Approached.rests (h : road.Approached line d r (front ++ car :: back))
    (hcourse : road.course = .straight line) (hclosed : ¬ road.Opens)
    (hrest : (road.part d r (front ++ car :: back)).kept.map Car.progress =
      (front ++ car :: back).map Car.progress) :
    road.RestsAt line (front.foldl (roomBehind d) r) car ∨
      road.StallsAt line (front.foldl (roomBehind d) r) car := by
  obtain ⟨k, hat, hbelow⟩ := h.comes
  by_cases hmark : road.milestone k < line.length - front.foldl (roomBehind d) r
  · have hmoves := (moves_of_not_opens hcourse hclosed car.progress).mpr (hat ▸ hmark)
    have hsame := stride_eq_of_part hclosed hrest hmoves
    rw [hat] at hsame
    exact Or.inr ⟨k, hat, hmark, hsame⟩
  · exact Or.inl ⟨k, hat, hmark, hbelow⟩

/-- On a brisk road no car stalls. -/
theorem Brisk.not_stallsAt (h : road.Brisk) (hfit : road.Fit)
    (hcourse : road.course = .straight line) (h0 : 0 ≤ r) : ¬ road.StallsAt line r car := by
  rintro ⟨k, -, hbelow, hsame⟩
  have hlength := lt_of_lt_of_le hbelow (sub_le h0 (lt_iff.mp hbelow).2.1)
  have hclear : ¬ road.AtEnd (road.milestone k) := by
    rw [AtEnd, hcourse]
    exact not_not.mpr hlength
  have hgrows := h.come_lt hfit hclear
  rw [milestone, hsame] at hgrows
  exact absurd (lt_iff.mp hgrows).2.2 (Int.lt_irrefl _)

theorem foldl_roomBehind_nonneg (hd : 0 ≤ d) (h0 : 0 ≤ r)
    (hlength : ∀ car ∈ front, 0 ≤ car.length) : 0 ≤ front.foldl (roomBehind d) r := by
  induction front generalizing r with
  | nil => exact h0
  | cons first front ih =>
      obtain ⟨hfirst, hothers⟩ := List.forall_mem_cons.mp hlength
      exact ih (le_trans h0 (le_roomBehind h0 hd hfirst)) hothers

theorem roomAhead_append (d : Float32) (front : List Car) (a : Car) :
    roomAhead d (front ++ [a]) = roomAhead d front + (a.length + d) := by
  rw [roomAhead, List.foldl_append]
  rfl

/-- What is kept between a car `a`, which is behind the cars `front`, and a car `b` right
behind it. -/
structure KeepsGap (road : Road) (line : Straight) (d : Float32) (front : List Car)
    (a b : Car) : Prop where
  /-- The gap falls short of the following distance by a stride at most. -/
  gap : value d - value road.speed - value line.length / 2 ^ 21 ≤
    value a.progress - value a.length - value b.progress
  /-- If some milestone is the mark of `b`, the gap does not fall short of the following
  distance. -/
  exact : (∃ k, road.milestone k = line.length - roomAhead d (front ++ [a])) →
    value d - value line.length / 2 ^ 21 ≤
      value a.progress - value a.length - value b.progress

/-- **The gap at rest.** -/
theorem keepsGap_of_restsAt (hfit : road.Fit) (hcourse : road.course = .straight line)
    (hfinite : line.length.isFinite = true) (hd : 0 ≤ d)
    (hlength : ∀ car ∈ front ++ [a], 0 ≤ car.length)
    (ha : road.RestsAt line (roomAhead d front) a)
    (hb : road.Comes line (roomAhead d (front ++ [a])) b) (hmoved : 0 < b.progress) :
    road.KeepsGap line d front a b := by
  obtain ⟨hfront, hone⟩ := List.forall_mem_append.mp hlength
  have hroom : 0 ≤ roomAhead d front := foldl_roomBehind_nonneg hd hd hfront
  have hlen := List.forall_mem_singleton.mp hone
  obtain ⟨i, hai, hapast, -⟩ := ha
  obtain ⟨k, hbk, hbelow⟩ := hb
  obtain ⟨n, rfl⟩ : ∃ n, k = n + 1 := by
    refine Nat.exists_eq_succ_of_ne_zero fun hzero => ?_
    rw [hbk, hzero, milestone] at hmoved
    exact absurd hmoved (by decide +kernel)
  have hrange := fun j => milestone_range hfit hcourse j
  have hlast := hbelow n (Nat.lt_succ_self n)
  have hmark := lt_of_le_of_lt (hrange n).1 hlast
  rw [roomAhead_append] at hlast hmark
  obtain ⟨-, hfa, hfb, hapart⟩ := marks_apart hfinite hroom hlen hd hmark
  have hfinite' := fun j => isFinite_of_le (hrange j).1 (hrange j).2 hfinite
  have h0 := value_nonneg (le_trans (hrange 0).1 (hrange 0).2) hfinite
  -- The car ahead has come to its mark.
  have hahead : value (line.length - roomAhead d front) ≤ value a.progress := by
    rw [hai]
    exact value_le hfa (hfinite' i) (le_of_not_lt (isNaN_of_isFinite (hfinite' i))
      (isNaN_of_isFinite hfa) hapast)
  refine ⟨?_, fun hexact => ?_⟩
  · have hstride : road.milestone (n + 1) =
        Scalar.lesser (road.milestone n + road.speed) line.length := by
      rw [milestone, stride, hcourse]
    have hbegan := value_le (hfinite' n) hfb (le_of_lt hlast)
    have hends := value_lesser_add_le hfinite (hrange n).1 (hrange n).2
      (le_of_lt hfit.speed_pos) hfit.speed
    rw [← hstride, ← hbk] at hends
    linarith
  · obtain ⟨j, hj⟩ := hexact
    -- No stride begins at the mark or past it, so `b` has come no further.
    have hle : n + 1 ≤ j := by
      by_contra hlt
      have hself := hbelow j (Nat.not_le.mp hlt)
      rw [hj] at hself
      exact absurd (lt_iff.mp hself).2.2 (Int.lt_irrefl _)
    have hcome := come_milestone_le hfit hle
    unfold come at hcome
    rw [hcourse, hj, roomAhead_append] at hcome
    have hbehind := value_le (hfinite' (n + 1)) hfb hcome
    rw [← hbk] at hbehind
    linarith

/-- How the cars of a road stand behind a stop, when a tick leaves all of them in place. -/
structure RestsBehindStop (road : Road) (line : Straight) (d : Float32) : Prop where
  /-- Each car has come to its mark or stalls below it. -/
  each : ∀ front car back, road.cars = front ++ car :: back →
    road.RestsAt line (roomAhead d front) car ∨ road.StallsAt line (roomAhead d front) car
  /-- On a brisk road each has come to its mark. -/
  brisk : road.Brisk → ∀ front car back, road.cars = front ++ car :: back →
    road.RestsAt line (roomAhead d front) car
  /-- A gap is kept between a car at its mark and one right behind it that has left the
  start. -/
  gaps : line.length.isFinite = true → ∀ front a b back, road.cars = front ++ a :: b :: back →
    road.RestsAt line (roomAhead d front) a → 0 < b.progress → road.KeepsGap line d front a b

end Road

end RoadTraffic
