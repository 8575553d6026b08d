import RoadTraffic.Proofs.Number.Arithmetic
import RoadTraffic.Proofs.Road.Fit
import RoadTraffic.Proofs.Road.Parting

/-!
# The order of a queue

A car that moves is tested against the end of the road and not against the car
ahead of it, and a stride can be longer than any car.  What keeps cars from
overtaking is that all of them take the same strides from the same start.  So the
progress of a car is one of the *milestones*

    0,  stride 0,  stride (stride 0),  …

and each car has taken at least as many strides as the one behind it (`Ahead`).
If it has taken just as many, the two are at the same progress, and the one ahead
has no more room reserved; so it moves whenever the one behind does.

* `come_milestone_le`: milestones do not go back, by the monotonicity of rounded
  sums;
* `Ahead.move`: two cars keep their order in a tick;
* `part_eq_append`: cars depart from the front of the queue;
* `Orderly.receive`, `Orderly.setSignal`, `Orderly.advance`: an orderly road
  stays orderly, whatever enters it, signals it and moves it.
-/

namespace RoadTraffic

open Binary32

/-- Is the angle zero, or on the side of the direction of travel? -/
def Arc.Onward (arc : Arc) (p : Float32) : Prop :=
  if arc.counterclockwise then p ≤ 0 else 0 ≤ p

/-- The angle of a stride on an arc may underflow to zero or overflow, but it does not lead
back. -/
theorem Arc.Fit.onward {arc : Arc} (h : arc.Fit) {speed : Float32}
    (hfinite : speed.isFinite = true) (hpos : 0 < speed) :
    arc.Onward (arc.direction * speed / arc.radius) := by
  have hone : Signed .positive 1 := .of_pos (by decide +kernel)
  unfold Arc.Onward Arc.direction
  cases arc.counterclockwise with
  | false =>
      have hproduct := hone.mul (.of_pos hpos) (by decide +kernel) hfinite
      exact (hproduct.div h.radius_pos h.radius).le
  | true =>
      have hproduct := hone.neg.mul (.of_pos hpos) (by decide +kernel) hfinite
      exact (hproduct.div h.radius_pos h.radius).ge

namespace Road

/-!
## Strides
-/

/-- How far a car at progress `p` has come along its road, in the direction of
travel. -/
def come (road : Road) (p : Float32) : Float32 :=
  match road.course with
  | .straight _ => p
  | .arc _ => p.abs

/-- Is `p` between the ends of the road, or at least on the right side of the
start? -/
def OnWay (road : Road) (p : Float32) : Prop :=
  match road.course with
  | .straight line => 0 ≤ p ∧ ¬ line.length < p
  | .arc arc =>
    (0 ≤ arc.direction * road.speed / arc.radius ∧ 0 ≤ p) ∨
      (arc.direction * road.speed / arc.radius ≤ 0 ∧ p ≤ 0)

/-- The progress after `k` moves from the start of the road. -/
def milestone (road : Road) : (k : Nat) → Float32
  | 0 => 0
  | k + 1 => road.stride (road.milestone k)

theorem milestone_congr {a b : Road} (hcourse : a.course = b.course) (hspeed : a.speed = b.speed)
    (k : Nat) : a.milestone k = b.milestone k := by
  induction k with
  | zero => rfl
  | succ k ih => rw [milestone, milestone, ih, stride, stride, hcourse, hspeed]

/-- The angle of a stride on an arc has a sign. -/
theorem angle_nonneg_or_nonpos {arc : Arc} {speed : Float32} (harc : arc.Fit)
    (hfinite : speed.isFinite = true) (hpos : 0 < speed) :
    0 ≤ arc.direction * speed / arc.radius ∨ arc.direction * speed / arc.radius ≤ 0 := by
  have honward := harc.onward hfinite hpos
  unfold Arc.Onward at honward
  split at honward
  · exact Or.inr honward
  · exact Or.inl honward

variable {road : Road} {d r r' p q : Float32} {a b a' b' car moved : Car}

theorem onWay_zero (hfit : road.Fit) : road.OnWay 0 := by
  obtain ⟨hcourse, hfinite, hpos⟩ := hfit
  have hzero := le_self isNaN_zero
  unfold OnWay
  cases hc : road.course with
  | straight line =>
      rw [hc] at hcourse
      exact ⟨hzero, fun hlt => hcourse.length (le_of_lt hlt)⟩
  | arc arc =>
      rw [hc] at hcourse
      rcases angle_nonneg_or_nonpos hcourse hfinite hpos with hangle | hangle
      · exact Or.inl ⟨hangle, hzero⟩
      · exact Or.inr ⟨hangle, hzero⟩

/-- A stride on a straight ends on it and does not go back. -/
theorem lesser_add_spec {length speed : Float32} (hspeed : 0 ≤ speed) (hp : 0 ≤ p)
    (hend : ¬ length < p) :
    p ≤ Scalar.lesser (p + speed) length ∧ ¬ length < Scalar.lesser (p + speed) length := by
  have hsum := le_add hp hspeed
  obtain ⟨hnp, hns, -⟩ := le_iff.mp hsum
  unfold Scalar.lesser
  rw [hns, if_neg Bool.false_ne_true]
  by_cases hover : length < p + speed
  · rw [if_pos hover]
    obtain ⟨hnl, -, -⟩ := lt_iff.mp hover
    refine ⟨le_of_not_lt hnl hnp hend, fun hlt => ?_⟩
    obtain ⟨-, -, hrank⟩ := lt_iff.mp hlt
    omega
  · rw [if_neg hover]
    exact ⟨hsum, hover⟩

/-- A stride stays on the way and does not go back. -/
theorem OnWay.stride (h : road.OnWay p) (hfit : road.Fit) :
    road.OnWay (road.stride p) ∧ road.come p ≤ road.come (road.stride p) := by
  unfold OnWay at h
  unfold OnWay come Road.stride
  cases hc : road.course with
  | straight line =>
      rw [hc] at h
      obtain ⟨hp, hend⟩ := h
      obtain ⟨hle, hnot⟩ := lesser_add_spec (le_of_lt hfit.speed_pos) hp hend
      exact ⟨⟨le_trans hp hle, hnot⟩, hle⟩
  | arc arc =>
      rw [hc] at h
      rcases h with ⟨hangle, hp⟩ | ⟨hangle, hp⟩
      · have hle := le_add hp hangle
        obtain ⟨hnp, hns, hrank⟩ := le_iff.mp hle
        obtain ⟨-, -, hpos⟩ := le_iff.mp hp
        rw [rank_zero] at hpos
        have habs := abs_le_abs hnp hns (by omega)
        exact ⟨Or.inl ⟨hangle, le_trans hp hle⟩, habs⟩
      · have hle := add_le hp hangle
        obtain ⟨hns, hnp, hrank⟩ := le_iff.mp hle
        obtain ⟨-, -, hneg⟩ := le_iff.mp hp
        rw [rank_zero] at hneg
        have habs := abs_le_abs hnp hns (by omega)
        exact ⟨Or.inr ⟨hangle, le_trans hle hp⟩, habs⟩

theorem onWay_milestone (hfit : road.Fit) (k : Nat) : road.OnWay (road.milestone k) := by
  induction k with
  | zero => exact onWay_zero hfit
  | succ k ih => exact (ih.stride hfit).1

/-- **Milestones do not go back.** -/
theorem come_milestone_le (hfit : road.Fit) {i j : Nat} (h : i ≤ j) :
    road.come (road.milestone i) ≤ road.come (road.milestone j) := by
  induction h with
  | refl =>
      obtain ⟨hnum, -, -⟩ := le_iff.mp ((onWay_milestone hfit i).stride hfit).2
      exact le_self hnum
  | @step j _ ih => exact le_trans ih ((onWay_milestone hfit j).stride hfit).2

/-!
## Two cars in one tick
-/

/-- `a` has taken at least as many strides as `b`. -/
def Ahead (road : Road) (a b : Car) : Prop :=
  ∃ i j, j ≤ i ∧ a.progress = road.milestone i ∧ b.progress = road.milestone j

theorem ahead_congr {one two : Road} (hcourse : one.course = two.course)
    (hspeed : one.speed = two.speed) : one.Ahead = two.Ahead := by
  have hsame : one.milestone = two.milestone := funext (milestone_congr hcourse hspeed)
  funext a b
  rw [Ahead, Ahead, hsame]

theorem Ahead.come_le (h : road.Ahead a b) (hfit : road.Fit) :
    road.come b.progress ≤ road.come a.progress := by
  obtain ⟨i, j, hle, ha, hb⟩ := h
  rw [ha, hb]
  exact come_milestone_le hfit hle

/-- A car that moves would also have moved with less room reserved ahead of it. -/
theorem Moves.of_room_le (h : road.Moves r' p) (h0 : 0 ≤ r) (hr : r ≤ r') : road.Moves r p := by
  unfold Moves at h ⊢
  cases hc : road.course with
  | straight line =>
      rw [hc] at h
      refine h.imp_left fun hlt => ?_
      obtain ⟨-, hnum, -⟩ := lt_iff.mp hlt
      exact lt_of_lt_of_le hlt (sub_le_sub_left h0 hr hnum)
  | arc arc =>
      rw [hc] at h
      exact h

/-- Where cars may depart, a car moves if one further along does, whatever room is
reserved ahead of the two. -/
theorem Moves.of_come_le (h : road.Moves r q) (hopen : road.Opens) (h0 : 0 ≤ r)
    (hle : road.come p ≤ road.come q) : road.Moves r' p := by
  unfold Opens at hopen
  unfold come at hle
  unfold Moves at h ⊢
  cases hc : road.course with
  | straight line =>
      rw [hc] at h hopen hle
      refine Or.inr ⟨?_, hopen⟩
      rcases h with hlt | ⟨hlt, -⟩
      · obtain ⟨-, hnum, -⟩ := lt_iff.mp hlt
        exact lt_of_le_of_lt hle (lt_of_lt_of_le hlt (sub_le h0 hnum))
      · exact lt_of_le_of_lt hle hlt
  | arc arc =>
      rw [hc] at h hle
      exact lt_of_le_of_lt hle h

/-- Two cars that take a stride or stay where they are keep their order, if the one ahead
takes one whenever the two are level and the one behind does. -/
theorem Ahead.step {ahead behind : Prop} (h : road.Ahead a b)
    (hlevel : a.progress = b.progress → behind → ahead)
    (ha : (ahead ∧ a'.progress = road.stride a.progress) ∨
      (¬ ahead ∧ a'.progress = a.progress))
    (hb : (behind ∧ b'.progress = road.stride b.progress) ∨
      (¬ behind ∧ b'.progress = b.progress)) : road.Ahead a' b' := by
  obtain ⟨i, j, hle, hai, hbj⟩ := h
  rw [hai] at ha
  rw [hbj] at hb
  rcases ha with ⟨-, hato⟩ | ⟨hastays, haat⟩
  · rcases hb with ⟨-, hbto⟩ | ⟨-, hbat⟩
    · exact ⟨i + 1, j + 1, Nat.succ_le_succ hle, hato, hbto⟩
    · exact ⟨i + 1, j, Nat.le_succ_of_le hle, hato, hbat⟩
  · rcases hb with ⟨hbgoes, hbto⟩ | ⟨-, hbat⟩
    · -- With as many strides behind it the car ahead would have taken one too.
      have hne : j ≠ i := by
        rintro rfl
        exact hastays (hlevel (hai.trans hbj.symm) hbgoes)
      exact ⟨i, j + 1, by omega, haat, hbto⟩
    · exact ⟨i, j, hle, haat, hbat⟩

/-- **No overtaking.**  Two cars that both stay on the road keep their order. -/
theorem Ahead.move (h : road.Ahead a b) (h0 : 0 ≤ r) (hr : r ≤ r')
    (ha : road.move d r a = .keep a') (hb : road.move d r' b = .keep b') : road.Ahead a' b' := by
  obtain ⟨-, -, hato⟩ := move_eq_keep ha
  obtain ⟨-, -, hbto⟩ := move_eq_keep hb
  refine h.step (fun hlevel hmoves => ?_) hato hbto
  exact hlevel ▸ hmoves.of_room_le h0 hr

/-- Only a car may depart behind which all others depart that are further along. -/
theorem Ahead.move_eq_depart (h : road.Ahead a b) (hfit : road.Fit) (h0 : 0 ≤ r)
    (hb : road.move d r' b = .depart) : road.move d r a = .depart := by
  obtain ⟨hbstays, hopen⟩ := Road.move_eq_depart hb
  rcases move_cases road d r a with ⟨hamoves, -⟩ | ⟨-, -, hdepart⟩ | ⟨-, hclosed, -⟩
  · exact absurd (hamoves.of_come_le hopen h0 (h.come_le hfit)) hbstays
  · exact hdepart
  · exact absurd hopen hclosed

/-!
## The queue in one tick
-/

/-- Room is reserved for every car passed, so it grows towards the back. -/
theorem le_roomBehind (h0 : 0 ≤ r) (hd : 0 ≤ d) (hlength : 0 ≤ car.length) :
    r ≤ roomBehind d r car :=
  le_add h0 (le_trans hlength (le_add hlength hd))

/-- Behind two cars of one length the room that is reserved is in the same order as ahead
of them. -/
theorem roomBehind_le (h0 : 0 ≤ r) (hr : r ≤ r') (hd : 0 ≤ d) (hlength : 0 ≤ a.length)
    (hsame : b.length = a.length) : roomBehind d r a ≤ roomBehind d r' b := by
  have hadded := le_trans hlength (le_add hlength hd)
  have hnum : ∀ {s : Float32}, 0 ≤ s → (s + (a.length + d)).isNaN = false := fun hs =>
    (le_iff.mp (le_add hs hadded)).2.1
  unfold roomBehind
  rw [hsame]
  exact add_le_add_right hr (hnum h0) (hnum (le_trans h0 hr))

/-- What becomes of a car further back, it becomes of it with at least as much room
reserved. -/
theorem exists_of_mem_part (road : Road) {cars : List Car} (h0 : 0 ≤ r) (hd : 0 ≤ d)
    (hlength : ∀ car ∈ cars, 0 ≤ car.length) :
    (∀ moved ∈ (road.part d r cars).kept,
      ∃ car ∈ cars, ∃ r', r ≤ r' ∧ road.move d r' car = .keep moved) ∧
    (∀ car ∈ (road.part d r cars).departed,
      car ∈ cars ∧ ∃ r', r ≤ r' ∧ road.move d r' car = .depart) := by
  induction cars generalizing r with
  | nil => exact ⟨nofun, nofun⟩
  | cons car behind ih =>
      obtain ⟨hcar, hbehind⟩ := List.forall_mem_cons.mp hlength
      have hroom := le_roomBehind h0 hd hcar
      obtain ⟨hkept, hdeparted⟩ := ih (le_trans h0 hroom) hbehind
      have hself := le_self (le_iff.mp hroom).1
      have hkept' : ∀ moved ∈ (road.part d (roomBehind d r car) behind).kept,
          ∃ other ∈ car :: behind, ∃ r', r ≤ r' ∧ road.move d r' other = .keep moved := by
        intro moved hmoved
        obtain ⟨other, hmem, r', hle, hmove⟩ := hkept moved hmoved
        exact ⟨other, List.mem_cons_of_mem _ hmem, r', le_trans hroom hle, hmove⟩
      have hdeparted' : ∀ other ∈ (road.part d (roomBehind d r car) behind).departed,
          other ∈ car :: behind ∧ ∃ r', r ≤ r' ∧ road.move d r' other = .depart := by
        intro other hother
        obtain ⟨hmem, r', hle, hmove⟩ := hdeparted other hother
        exact ⟨List.mem_cons_of_mem _ hmem, r', le_trans hroom hle, hmove⟩
      rw [part_cons]
      cases hmove : road.move d r car with
      | keep moved =>
          refine ⟨List.forall_mem_cons.mpr ⟨?_, hkept'⟩, hdeparted'⟩
          exact ⟨car, List.mem_cons_self, r, hself, hmove⟩
      | depart =>
          refine ⟨hkept', List.forall_mem_cons.mpr ⟨?_, hdeparted'⟩⟩
          exact ⟨List.mem_cons_self, r, hself, hmove⟩

/-- The order of a queue outlasts a tick. -/
theorem pairwise_kept {cars : List Car} (h : cars.Pairwise road.Ahead) (h0 : 0 ≤ r) (hd : 0 ≤ d)
    (hlength : ∀ car ∈ cars, 0 ≤ car.length) :
    (road.part d r cars).kept.Pairwise road.Ahead := by
  induction cars generalizing r with
  | nil => exact List.Pairwise.nil
  | cons car behind ih =>
      obtain ⟨hahead, hordered⟩ := List.pairwise_cons.mp h
      obtain ⟨hcar, hbehind⟩ := List.forall_mem_cons.mp hlength
      have hroom := le_roomBehind h0 hd hcar
      have hkept := ih hordered (le_trans h0 hroom) hbehind
      rw [part_cons]
      cases hmove : road.move d r car with
      | depart => exact hkept
      | keep moved =>
          refine List.pairwise_cons.mpr ⟨fun other hother => ?_, hkept⟩
          obtain ⟨hfrom, -⟩ := exists_of_mem_part road (le_trans h0 hroom) hd hbehind
          obtain ⟨was, hwas, r', hle, hmove'⟩ := hfrom other hother
          exact (hahead was hwas).move h0 (le_trans hroom hle) hmove hmove'

/-- Behind a car that is kept no car departs. -/
theorem departed_eq_nil_of_keep {cars : List Car} (hfit : road.Fit)
    (h : (car :: cars).Pairwise road.Ahead) (h0 : 0 ≤ r) (hd : 0 ≤ d)
    (hlength : ∀ other ∈ car :: cars, 0 ≤ other.length)
    (hmove : road.move d r car = .keep moved) :
    (road.part d (roomBehind d r car) cars).departed = [] := by
  obtain ⟨hahead, -⟩ := List.pairwise_cons.mp h
  obtain ⟨hcar, hbehind⟩ := List.forall_mem_cons.mp hlength
  obtain ⟨-, hdeparted⟩ :=
    exists_of_mem_part road (le_trans h0 (le_roomBehind h0 hd hcar)) hd hbehind
  refine List.eq_nil_iff_forall_not_mem.mpr fun other hother => ?_
  obtain ⟨hmem, r', -, hdepart⟩ := hdeparted other hother
  have hgone := (hahead other hmem).move_eq_depart hfit h0 hdepart
  exact nomatch hmove.symm.trans hgone

/-- **First in, first out.**  The cars that depart were the front of the queue, and
those that are kept are the rest of it. -/
theorem part_eq_append {cars : List Car} (hfit : road.Fit) (h : cars.Pairwise road.Ahead)
    (h0 : 0 ≤ r) (hd : 0 ≤ d) (hlength : ∀ car ∈ cars, 0 ≤ car.length) :
    ∃ rest, cars = (road.part d r cars).departed ++ rest ∧
      (road.part d r cars).kept.map Car.tag = rest.map Car.tag := by
  induction cars generalizing r with
  | nil => exact ⟨[], rfl, rfl⟩
  | cons car behind ih =>
      obtain ⟨-, hordered⟩ := List.pairwise_cons.mp h
      obtain ⟨hcar, hbehind⟩ := List.forall_mem_cons.mp hlength
      have hroom := le_roomBehind h0 hd hcar
      obtain ⟨rest, hsplit, hkept⟩ := ih hordered (le_trans h0 hroom) hbehind
      rw [part_cons]
      cases hmove : road.move d r car with
      | depart =>
          refine ⟨rest, ?_, hkept⟩
          rw [Parted.cons_depart, List.cons_append, ← hsplit]
      | keep moved =>
          have hnone := departed_eq_nil_of_keep hfit h h0 hd hlength hmove
          rw [hnone, List.nil_append] at hsplit
          refine ⟨car :: behind, ?_, ?_⟩
          · rw [Parted.cons_keep, hnone, List.nil_append]
          · rw [Parted.cons_keep, List.map_cons, List.map_cons, tag_of_move_eq_keep hmove, hkept,
              ← hsplit]

/-!
## Orderly roads
-/

/-- A fit road with its cars at milestones and in order. -/
structure Orderly (road : Road) : Prop where
  fit : road.Fit
  length : ∀ car ∈ road.cars, 0 ≤ car.length
  placed : ∀ car ∈ road.cars, ∃ k, car.progress = road.milestone k
  ahead : road.cars.Pairwise road.Ahead

namespace Orderly

/-- Milestones and order are those of the course and the speed, so it is enough to
look at the queue. -/
theorem of_queue {other : Road} (hfit : road.Fit) (hcourse : other.course = road.course)
    (hspeed : other.speed = road.speed) (hlength : ∀ car ∈ other.cars, 0 ≤ car.length)
    (hplaced : ∀ car ∈ other.cars, ∃ k, car.progress = road.milestone k)
    (hahead : other.cars.Pairwise road.Ahead) : other.Orderly := by
  refine ⟨⟨hcourse ▸ hfit.course, hspeed ▸ hfit.speed, hspeed ▸ hfit.speed_pos⟩, hlength, ?_, ?_⟩
  · intro car hcar
    obtain ⟨k, hk⟩ := hplaced car hcar
    exact ⟨k, hk.trans (milestone_congr hcourse hspeed k).symm⟩
  · rw [ahead_congr hcourse hspeed]
    exact hahead

theorem of_cars_eq_nil (hfit : road.Fit) (h : road.cars = []) : road.Orderly := by
  refine of_queue hfit rfl rfl ?_ ?_ ?_ <;> rw [h]
  · exact List.forall_mem_nil _
  · exact List.forall_mem_nil _
  · exact List.Pairwise.nil

/-- A car that enters has taken no strides, so all others are ahead of it. -/
theorem receive (h : road.Orderly) (hlength : 0 ≤ car.length) : (road.receive car).Orderly := by
  refine of_queue h.fit rfl rfl ?_ ?_ ?_
  · refine List.forall_mem_append.mpr ⟨h.length, ?_⟩
    exact List.forall_mem_singleton.mpr hlength
  · refine List.forall_mem_append.mpr ⟨h.placed, ?_⟩
    exact List.forall_mem_singleton.mpr ⟨0, rfl⟩
  · refine List.pairwise_append.mpr ⟨h.ahead, List.pairwise_singleton .., ?_⟩
    intro other hother entered hentered
    obtain ⟨k, hk⟩ := h.placed other hother
    rw [List.mem_singleton.mp hentered]
    exact ⟨k, 0, Nat.zero_le k, hk, rfl⟩

theorem setSignal (h : road.Orderly) (signal : Signal) : (road.setSignal signal).Orderly :=
  of_queue h.fit rfl rfl h.length h.placed h.ahead

/-- A tick with a following distance that is not negative keeps the order. -/
theorem advance (h : road.Orderly) (hd : 0 ≤ d) : (road.advance d).1.Orderly := by
  have hcars : (road.advance d).1.cars = (road.part d d road.cars).kept := by
    rw [← partQueue_eq_part]
    rfl
  obtain ⟨hkept, -⟩ := exists_of_mem_part road hd hd h.length
  refine of_queue h.fit rfl rfl ?_ ?_ ?_ <;> rw [hcars]
  · intro moved hmoved
    obtain ⟨car, hcar, r', -, hmove⟩ := hkept moved hmoved
    rw [(move_eq_keep hmove).2.1]
    exact h.length car hcar
  · intro moved hmoved
    obtain ⟨car, hcar, r', -, hmove⟩ := hkept moved hmoved
    obtain ⟨k, hk⟩ := h.placed car hcar
    obtain ⟨-, -, ⟨-, hto⟩ | ⟨-, hat⟩⟩ := move_eq_keep hmove
    · exact ⟨k + 1, by rw [hto, hk, milestone]⟩
    · exact ⟨k, hat.trans hk⟩
  · exact pairwise_kept h.ahead hd hd h.length

/-- The cars that depart in a tick are the front of the queue, and the rest of it
stays. -/
theorem departed_append (h : road.Orderly) (hd : 0 ≤ d) :
    ∃ rest, road.cars = (road.advance d).2 ++ rest ∧
      (road.advance d).1.cars.map Car.tag = rest.map Car.tag := by
  have hsplit := part_eq_append h.fit h.ahead hd hd h.length
  rw [← partQueue_eq_part] at hsplit
  exact hsplit

/-- Towards the back of the queue no car is further along. -/
theorem come_pairwise (h : road.Orderly) :
    road.cars.Pairwise fun a b => road.come b.progress ≤ road.come a.progress :=
  h.ahead.imp fun hahead => hahead.come_le h.fit

end Orderly

end Road

end RoadTraffic
