import Mathlib
import RoadTraffic.Road.Advance

/-!
# What a tick makes of a queue

The two kinds of road pass over their queues in different ways, but what they do
to one car can be said in common.  A car at progress `p` with `reserved` room
ahead of it

    moves     if  road.Moves followingDistance reserved p,
    departs   if it does not move and  road.Opens,
    stays     otherwise,

and a move takes its progress to `road.stride p` (`move_cases`).  On an arc the
reserved room is summed up as on a straight and never looked at, so both passes
are `Road.part` (`partQueue_eq_part`).

* `part_perm`: the cars that are kept and those that depart are those that were
  in the queue, with their identities and lengths;
* `departed_sublist`: the cars that depart leave as they stood in the queue, and in
  its order.
-/

namespace RoadTraffic

/-- What a car keeps for life: its identity and its length. -/
def Car.tag (car : Car) : CarId × Float32 := (car.id, car.length)

/-- Do two cars agree in what they keep for life? -/
def Car.SameTag (c d : Car) : Prop := c.tag = d.tag

theorem Car.forall₂_sameTag (cars : List Car) : List.Forall₂ Car.SameTag cars cars :=
  List.forall₂_same.mpr fun _ _ => rfl

/-- A road makes the same of all cars of one tag that enter it. -/
theorem Road.receive_eq {c d : Car} (h : c.SameTag d) (road : Road) :
    road.receive c = road.receive d := by
  obtain ⟨hid, hlength⟩ := Prod.mk.inj h
  rw [receive, receive, Car.entering, Car.entering, hid, hlength]

namespace Road

/-- The progress after a move from progress `p`. -/
def stride (road : Road) (p : Float32) : Float32 :=
  match road.course with
  | .straight line => Scalar.lesser (p + road.speed) line.length
  | .arc arc => p + arc.direction * road.speed / arc.radius

/-- Does a car at progress `p`, with `reserved` room ahead of it, move? -/
def Moves (road : Road) (reserved p : Float32) : Prop :=
  match road.course with
  | .straight line =>
    p < line.length - reserved ∨ (p < line.length ∧ road.signal.proceeds = true)
  | .arc arc => p.abs < arc.span

/-- Does a car depart if it does not move? -/
def Opens (road : Road) : Prop :=
  match road.course with
  | .straight _ => road.signal.proceeds = true
  | .arc _ => True

/-- What becomes of a car with `reserved` room ahead of it. -/
def move (road : Road) (followingDistance reserved : Float32) (car : Car) : Move :=
  match road.course with
  | .straight line =>
    (StraightTick.on line road.speed road.signal followingDistance).move reserved car
  | .arc arc => (ArcTick.on arc road.speed).move car

/-- The room ahead of the car behind `car`. -/
def roomBehind (followingDistance reserved : Float32) (car : Car) : Float32 :=
  reserved + (car.length + followingDistance)

/-- Passes over a queue, with `reserved` room ahead of its first car. -/
def part (road : Road) (followingDistance : Float32) : Float32 → List Car → Parted
  | _, [] => ⟨[], []⟩
  | reserved, car :: behind =>
    .cons car (road.move followingDistance reserved car)
      (road.part followingDistance (roomBehind followingDistance reserved car) behind)

/-- On either kind of road a tick is a pass over the queue with the following
distance reserved ahead of the first car. -/
theorem partQueue_eq_part (road : Road) (d : Float32) :
    road.partQueue d = road.part d d road.cars := by
  cases hcourse : road.course with
  | straight line =>
      have hpart : ∀ reserved cars, (StraightTick.on line road.speed road.signal d).rule.part
          reserved cars = road.part d reserved cars := by
        intro reserved cars
        induction cars generalizing reserved with
        | nil => rfl
        | cons car behind ih =>
            rw [Rule.part, part, ih, move, hcourse]
            rfl
      rw [partQueue_straight hcourse, hpart]
  | arc arc =>
      have hpart : ∀ reserved cars, (ArcTick.on arc road.speed).rule.part () cars =
          road.part d reserved cars := by
        intro reserved cars
        induction cars generalizing reserved with
        | nil => rfl
        | cons car behind ih =>
            rw [Rule.part, part, ← ih, move, hcourse]
            rfl
      rw [partQueue_arc hcourse, hpart d]

variable {road : Road} {d r : Float32} {car moved : Car}

theorem isStraight_of_straight {line : Straight} (h : road.course = .straight line) :
    road.isStraight = true := by
  rw [isStraight, h]
  rfl

theorem isStraight_of_arc {arc : Arc} (h : road.course = .arc arc) : road.isStraight = false := by
  rw [isStraight, h]
  rfl

theorem exists_line_of_isStraight (h : road.isStraight = true) :
    ∃ line, road.course = .straight line := by
  unfold isStraight Course.isStraight at h
  cases hcourse : road.course with
  | straight line => exact ⟨line, rfl⟩
  | arc arc =>
      rw [hcourse] at h
      cases h

/-- **One car in one tick.**  A car that moves is put a stride further, a car that
neither moves nor departs is left as it is, and a car keeps its identity and its
length whatever becomes of it. -/
theorem move_cases (road : Road) (d r : Float32) (car : Car) :
    (road.Moves r car.progress ∧ ∃ moved, road.move d r car = .keep moved ∧
      moved.id = car.id ∧ moved.length = car.length ∧
      moved.progress = road.stride car.progress) ∨
    (¬ road.Moves r car.progress ∧ road.Opens ∧ road.move d r car = .depart) ∨
    (¬ road.Moves r car.progress ∧ ¬ road.Opens ∧ road.move d r car = .keep car) := by
  unfold Moves Opens move stride
  cases road.course with
  | straight line =>
      unfold StraightTick.move
      by_cases hmoves : car.progress < line.length - r ∨
          (car.progress < line.length ∧ road.signal.proceeds = true)
      · exact Or.inl ⟨hmoves, _, if_pos hmoves, rfl, rfl, rfl⟩
      · by_cases hopen : road.signal.proceeds = true
        · exact Or.inr (Or.inl ⟨hmoves, hopen, (if_neg hmoves).trans (if_pos hopen)⟩)
        · exact Or.inr (Or.inr ⟨hmoves, hopen, (if_neg hmoves).trans (if_neg hopen)⟩)
  | arc arc =>
      unfold ArcTick.move
      by_cases hmoves : car.progress.abs < arc.span
      · exact Or.inl ⟨hmoves, _, if_pos hmoves, rfl, rfl, rfl⟩
      · exact Or.inr (Or.inl ⟨hmoves, trivial, if_neg hmoves⟩)

/-- A car that is kept has moved, or is as it was and may not depart. -/
theorem move_eq_keep (h : road.move d r car = .keep moved) :
    moved.id = car.id ∧ moved.length = car.length ∧
      ((road.Moves r car.progress ∧ moved.progress = road.stride car.progress) ∨
        (¬ road.Moves r car.progress ∧ moved.progress = car.progress)) := by
  rcases move_cases road d r car with
    ⟨hm, other, hto, hid, hlen, hpos⟩ | ⟨-, -, hgo⟩ | ⟨hm, -, hstay⟩
  · obtain rfl : other = moved := Move.keep.inj (hto.symm.trans h)
    exact ⟨hid, hlen, Or.inl ⟨hm, hpos⟩⟩
  · exact nomatch hgo.symm.trans h
  · obtain rfl : car = moved := Move.keep.inj (hstay.symm.trans h)
    exact ⟨rfl, rfl, Or.inr ⟨hm, rfl⟩⟩

theorem tag_of_move_eq_keep (h : road.move d r car = .keep moved) : moved.tag = car.tag := by
  obtain ⟨hid, hlength, -⟩ := move_eq_keep h
  exact Prod.ext hid hlength

theorem move_eq_depart (h : road.move d r car = .depart) :
    ¬ road.Moves r car.progress ∧ road.Opens := by
  rcases move_cases road d r car with ⟨-, _, hto, -⟩ | ⟨hm, hopen, -⟩ | ⟨-, -, hstay⟩
  · exact nomatch hto.symm.trans h
  · exact ⟨hm, hopen⟩
  · exact nomatch hstay.symm.trans h

/-!
## The whole queue
-/

theorem part_cons (behind : List Car) : road.part d r (car :: behind) =
    .cons car (road.move d r car) (road.part d (roomBehind d r car) behind) := rfl

/-- **No car is lost or made.**  What a tick keeps and what it lets depart is
together what was in the queue. -/
theorem part_perm (road : Road) (d r : Float32) (cars : List Car) :
    ((road.part d r cars).kept.map Car.tag ++ (road.part d r cars).departed.map Car.tag).Perm
      (cars.map Car.tag) := by
  induction cars generalizing r with
  | nil => exact List.Perm.refl _
  | cons car behind ih =>
      have hbehind := ih (roomBehind d r car)
      rw [part_cons]
      cases hmove : road.move d r car with
      | keep moved =>
          rw [Parted.cons_keep, List.map_cons, List.map_cons, tag_of_move_eq_keep hmove]
          exact hbehind.cons _
      | depart =>
          rw [Parted.cons_depart, List.map_cons, List.map_cons]
          exact List.perm_middle.trans (hbehind.cons _)

/-- Departing cars leave as they stood in the queue, in the order of the queue. -/
theorem departed_sublist (cars : List Car) : (road.part d r cars).departed.Sublist cars := by
  induction cars generalizing r with
  | nil => exact List.Sublist.refl _
  | cons car behind ih =>
      rw [part_cons]
      cases road.move d r car with
      | keep moved => exact (ih).cons _
      | depart => exact (ih).cons_cons _

/-- A road that is not open keeps all its cars, whatever the following distance. -/
theorem part_of_not_opens (h : ¬ road.Opens) (cars : List Car) :
    (road.part d r cars).departed = [] ∧
      (road.part d r cars).kept.map Car.tag = cars.map Car.tag := by
  induction cars generalizing r with
  | nil => exact ⟨rfl, rfl⟩
  | cons car behind ih =>
      obtain ⟨hdeparted, hkept⟩ := ih (r := roomBehind d r car)
      rw [part_cons]
      cases hmove : road.move d r car with
      | keep moved =>
          rw [Parted.cons_keep, List.map_cons, List.map_cons, tag_of_move_eq_keep hmove, hkept]
          exact ⟨hdeparted, rfl⟩
      | depart => exact absurd (move_eq_depart hmove).2 h

end Road

end RoadTraffic
