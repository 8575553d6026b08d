import RoadTraffic.Proofs.Number.Bounds
import RoadTraffic.Proofs.Road.Transit

/-!
# What a stride makes of a car

Whatever the following distance is, also a negative one or NaN, a tick does one of three
things to a car with some room reserved ahead of it (`move_eq`):

    it takes a stride      if  road.Moves,
    it departs             if it takes none and  road.Opens,
    it is left as it is    otherwise.

A stride puts the car at the next milestone and writes down where it is shown.  On a
straight that is at the new milestone, and on an arc at the one where the stride began.
So both can be read off the number of strides that the car has taken: its progress is
`road.milestone k`, and its pose is `road.shown k`.

* `exists_of_mem_kept`, `atEnd_of_mem_departed`: the three cases, for a whole queue;
* `milestone_range`: milestones of a straight lie between its ends;
* `onward_milestone`: those of an arc lie on the side of its direction of travel;
* `not_atEnd_zero`: the start of a road is not its end.
-/

namespace RoadTraffic

open Binary32

/-!
## Courses have an extent
-/

/-- A length may overflow to infinity, but it is above zero. -/
theorem Straight.Fit.length_pos {line : Straight} (h : line.Fit) : 0 < line.length := by
  have hsquare : ∀ {x y : Float32}, x.isFinite = true → y.isFinite = true →
      0 ≤ (x - y) * (x - y) := fun hx hy => square_nonneg (isNaN_sub_of_isFinite hx hy)
  have hdx := hsquare h.start.x h.finish.x
  have hdy := hsquare h.start.y h.finish.y
  have hlength : 0 ≤ line.length := sqrt_nonneg (le_trans hdx (le_add hdx hdy))
  obtain ⟨hzero, hnum, -⟩ := le_iff.mp hlength
  by_contra hnot
  exact h.length (le_of_not_lt hzero hnum hnot)

theorem Arc.Fit.span_pos {arc : Arc} (h : arc.Fit) : 0 < arc.span := by
  obtain ⟨hzero, hnum, -⟩ := le_iff.mp (abs_nonneg (isNaN_sub_of_isFinite h.endAngle h.startAngle))
  by_contra hnot
  exact h.span (le_of_not_lt hzero hnum hnot)

namespace Road

/-!
## One car
-/

/-- Where a car at progress `p` is shown after its next stride. -/
def poseAfter (road : Road) (p : Float32) : Pose :=
  match road.course with
  | .straight line => ⟨line.pointAt (road.stride p), line.heading⟩
  | .arc arc => arc.poseAt p

/-- A car after one more stride. -/
def strode (road : Road) (car : Car) : Car :=
  { car with progress := road.stride car.progress, pose := road.poseAfter car.progress }

/-- Where a car is shown after `k` strides from the start of the road. -/
def shown (road : Road) : (k : Nat) → Pose
  | 0 => road.course.startPose
  | k + 1 => road.poseAfter (road.milestone k)

variable {road : Road} {d r p : Float32} {car kept : Car} {cars : List Car}

instance (road : Road) (r p : Float32) : Decidable (road.Moves r p) :=
  match hcourse : road.course with
  | .straight line =>
    decidable_of_iff (p < line.length - r ∨ (p < line.length ∧ road.signal.proceeds = true))
      (by rw [Moves, hcourse])
  | .arc arc => decidable_of_iff (p.abs < arc.span) (by rw [Moves, hcourse])

instance (road : Road) : Decidable road.Opens :=
  match hcourse : road.course with
  | .straight _ => decidable_of_iff (road.signal.proceeds = true) (by rw [Opens, hcourse])
  | .arc _ => isTrue (by rw [Opens, hcourse]; trivial)

theorem shown_congr {a b : Road} (hcourse : a.course = b.course) (hspeed : a.speed = b.speed)
    (k : Nat) : a.shown k = b.shown k := by
  cases k with
  | zero => rw [shown, shown, hcourse]
  | succ k =>
      rw [shown, shown, milestone_congr hcourse hspeed, poseAfter, poseAfter, stride, stride,
        hcourse, hspeed]

/-- **One car in one tick.** -/
theorem move_eq (road : Road) (d r : Float32) (car : Car) :
    road.move d r car =
      if road.Moves r car.progress then .keep (road.strode car)
      else if road.Opens then .depart
      else .keep car := by
  rcases hcourse : road.course with line | arc
  · have hmoves : road.Moves r car.progress ↔ car.progress < line.length - r ∨
        (car.progress < line.length ∧ road.signal.proceeds = true) := by rw [Moves, hcourse]
    have hopens : road.Opens ↔ road.signal.proceeds = true := by rw [Opens, hcourse]
    have hstrode : road.strode car =
        (StraightTick.on line road.speed road.signal d).step car := by
      rw [strode, poseAfter, stride, hcourse]
      rfl
    rw [move, hcourse, hstrode]
    simp only [hmoves, hopens]
    rfl
  · have hmoves : road.Moves r car.progress ↔ car.progress.abs < arc.span := by
      rw [Moves, hcourse]
    have hopens : road.Opens := by rw [Opens, hcourse]; trivial
    have hstrode : road.strode car = (ArcTick.on arc road.speed).step car := by
      rw [strode, poseAfter, stride, hcourse]
      rfl
    rw [move, hcourse, hstrode]
    simp only [hmoves, hopens, if_true]
    rfl

/-- A car that neither takes a stride where the road is open has come to the end. -/
theorem atEnd_of_not_moves (h : ¬ road.Moves r p) (hopen : road.Opens) : road.AtEnd p := by
  unfold Opens at hopen
  unfold Moves at h
  unfold AtEnd
  cases hcourse : road.course with
  | straight line =>
      rw [hcourse] at h hopen
      exact fun hclear => h (Or.inr ⟨hclear, hopen⟩)
  | arc arc =>
      rw [hcourse] at h
      exact h

theorem exists_arc_of_isStraight_eq_false (h : road.isStraight = false) :
    ∃ arc, road.course = .arc arc := by
  unfold isStraight Course.isStraight at h
  cases hcourse : road.course with
  | straight line =>
      rw [hcourse] at h
      cases h
  | arc arc => exact ⟨arc, rfl⟩

/-- On an arc a car takes a stride unless it has come to the end. -/
theorem moves_iff_of_arc (h : road.isStraight = false) : road.Moves r p ↔ ¬ road.AtEnd p := by
  obtain ⟨arc, hcourse⟩ := exists_arc_of_isStraight_eq_false h
  rw [Moves, AtEnd, hcourse]
  exact not_not.symm

theorem opens_of_arc (h : road.isStraight = false) : road.Opens := by
  obtain ⟨arc, hcourse⟩ := exists_arc_of_isStraight_eq_false h
  rw [Opens, hcourse]
  trivial

/-!
## The whole queue
-/

/-- The cars that take a stride in a pass over a queue, with `reserved` room ahead of its
first car. -/
def moving (road : Road) (followingDistance : Float32) : (reserved : Float32) → List Car →
    List CarId
  | _, [] => []
  | reserved, car :: behind =>
    let others := road.moving followingDistance (roomBehind followingDistance reserved car) behind
    if road.Moves reserved car.progress then car.id :: others else others

theorem moving_sublist (road : Road) (d r : Float32) (cars : List Car) :
    (road.moving d r cars).Sublist (cars.map Car.id) := by
  induction cars generalizing r with
  | nil => exact List.Sublist.refl _
  | cons car behind ih =>
      have hbehind := ih (roomBehind d r car)
      rw [moving, List.map_cons]
      split
      · exact hbehind.cons_cons _
      · exact hbehind.cons _

/-- **A car that a tick keeps** has taken a stride, or is as it was. -/
theorem exists_of_mem_kept (hdistinct : (cars.map Car.id).Nodup)
    (h : kept ∈ (road.part d r cars).kept) :
    ∃ car ∈ cars, kept.id = car.id ∧
      ((car.id ∈ road.moving d r cars ∧ kept = road.strode car ∧
          ∃ r', road.Moves r' car.progress) ∨
        (car.id ∉ road.moving d r cars ∧ kept = car ∧ ¬ road.Opens)) := by
  induction cars generalizing r with
  | nil => exact nomatch h
  | cons first behind ih =>
      obtain ⟨hnew, hothers⟩ := List.nodup_cons.mp hdistinct
      have hmoving := (road.moving_sublist d (roomBehind d r first) behind).subset
      -- What is kept of the cars behind is not the first car, so the list grows by another.
      have hbehind : kept ∈ (road.part d (roomBehind d r first) behind).kept →
          ∃ car ∈ first :: behind, kept.id = car.id ∧
            ((car.id ∈ road.moving d r (first :: behind) ∧ kept = road.strode car ∧
                ∃ r', road.Moves r' car.progress) ∨
              (car.id ∉ road.moving d r (first :: behind) ∧ kept = car ∧ ¬ road.Opens)) := by
        intro hkept
        obtain ⟨car, hcar, hid, hcases⟩ := ih hothers hkept
        have hne : car.id ≠ first.id := fun heq => hnew (heq ▸ List.mem_map_of_mem hcar)
        have hsame : car.id ∈ road.moving d r (first :: behind) ↔
            car.id ∈ road.moving d (roomBehind d r first) behind := by
          rw [moving]
          split
          · rw [List.mem_cons, or_iff_right hne]
          · rfl
        rw [← hsame] at hcases
        exact ⟨car, List.mem_cons_of_mem _ hcar, hid, hcases⟩
      rw [part_cons, move_eq] at h
      by_cases hmoves : road.Moves r first.progress
      · rw [if_pos hmoves, Parted.cons_keep] at h
        rcases List.mem_cons.mp h with rfl | hkept
        · refine ⟨first, List.mem_cons_self, rfl, Or.inl ⟨?_, rfl, r, hmoves⟩⟩
          rw [moving, if_pos hmoves]
          exact List.mem_cons_self
        · exact hbehind hkept
      · rw [if_neg hmoves] at h
        by_cases hopen : road.Opens
        · rw [if_pos hopen, Parted.cons_depart] at h
          exact hbehind h
        · rw [if_neg hopen, Parted.cons_keep] at h
          rcases List.mem_cons.mp h with rfl | hkept
          · refine ⟨kept, List.mem_cons_self, rfl, Or.inr ⟨?_, rfl, hopen⟩⟩
            rw [moving, if_neg hmoves]
            exact fun hmem => hnew (hmoving hmem)
          · exact hbehind hkept

/-- **A car that departs** has come to the end of an open road. -/
theorem atEnd_of_mem_departed (h : car ∈ (road.part d r cars).departed) :
    car ∈ cars ∧ road.Opens ∧ road.AtEnd car.progress := by
  induction cars generalizing r with
  | nil => exact nomatch h
  | cons first behind ih =>
      have hbehind : car ∈ (road.part d (roomBehind d r first) behind).departed →
          car ∈ first :: behind ∧ road.Opens ∧ road.AtEnd car.progress := fun hlater =>
        (ih hlater).imp_left (List.mem_cons_of_mem _)
      rw [part_cons] at h
      cases hmove : road.move d r first with
      | keep moved =>
          rw [hmove, Parted.cons_keep] at h
          exact hbehind h
      | depart =>
          rw [hmove, Parted.cons_depart] at h
          rcases List.mem_cons.mp h with rfl | hlater
          · obtain ⟨hstays, hopen⟩ := move_eq_depart hmove
            exact ⟨List.mem_cons_self, hopen, atEnd_of_not_moves hstays hopen⟩
          · exact hbehind hlater

/-!
## Milestones
-/

variable {line : Straight} {arc : Arc}

/-- Milestones of a straight lie between its ends. -/
theorem milestone_range (hfit : road.Fit) (hcourse : road.course = .straight line) (k : Nat) :
    0 ≤ road.milestone k ∧ road.milestone k ≤ line.length := by
  have hway := onWay_milestone hfit k
  rw [OnWay, hcourse] at hway
  obtain ⟨-, hnum, -⟩ := le_iff.mp hway.1
  obtain ⟨-, hlength, -⟩ := lt_iff.mp (hfit.straight hcourse).length_pos
  exact ⟨hway.1, le_of_not_lt hlength hnum hway.2⟩

/-- Milestones of an arc lie on the side of its direction of travel. -/
theorem onward_milestone (hfit : road.Fit) (hcourse : road.course = .arc arc) (k : Nat) :
    arc.Onward (road.milestone k) := by
  have hangle := (hfit.arc hcourse).onward hfit.speed hfit.speed_pos
  have hstride : ∀ p, road.stride p = p + arc.direction * road.speed / arc.radius := by
    intro p
    rw [stride, hcourse]
  unfold Arc.Onward at hangle ⊢
  induction k with
  | zero =>
      have hzero := le_self isNaN_zero
      split
      · exact hzero
      · exact hzero
  | succ k ih =>
      rw [milestone, hstride]
      split at hangle
      · next hback =>
          rw [if_pos hback] at ih ⊢
          exact le_trans (add_le ih hangle) ih
      · next hforth =>
          rw [if_neg hforth] at ih ⊢
          exact le_trans ih (le_add ih hangle)

/-- The start of a road is not its end. -/
theorem not_atEnd_zero (hfit : road.Fit) : ¬ road.AtEnd 0 := by
  unfold AtEnd
  cases hcourse : road.course with
  | straight line => exact not_not.mpr (hfit.straight hcourse).length_pos
  | arc arc =>
      have habs : (0 : Float32).abs = 0 := by decide +kernel
      rw [habs]
      exact not_not.mpr (hfit.arc hcourse).span_pos

/-- A number between the ends of a straight that is not below its length is the length. -/
theorem eq_length_of_atEnd (hcourse : road.course = .straight line) (hlength : 0 < line.length)
    (hle : p ≤ line.length) (hend : road.AtEnd p) : p = line.length := by
  rw [AtEnd, hcourse] at hend
  obtain ⟨hnum, hlnum, hrank⟩ := le_iff.mp hle
  obtain ⟨-, -, hpos⟩ := lt_iff.mp hlength
  obtain ⟨-, -, hback⟩ := le_iff.mp (le_of_not_lt hnum hlnum hend)
  rw [rank_zero] at hpos
  have hsame : rank p = rank line.length := Int.le_antisymm hrank hback
  exact eq_of_rank_eq hsame (by omega)

end Road

end RoadTraffic
