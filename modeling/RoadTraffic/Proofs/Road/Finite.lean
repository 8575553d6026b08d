import RoadTraffic.Proofs.Number.Angles
import RoadTraffic.Proofs.Road.Strides

/-!
# Roads on which nothing overflows

The check of a road asks for finite numbers, but a tick works with others that are computed
from them: the length of a straight, the span of an arc, the angle of a stride, and
coordinates that lie that far from the start or the center.  Each of these may overflow.
A road is *tame* if none of them does, with some room:

    on a straight    |coordinate of the start| + 2 length  is finite,
    on an arc        |coordinate of the center| + 2 radius,
                     span + |angle of a stride|  and
                     |start angle| + span + a right angle  are finite.

On a tame road cars are driven by finite numbers only (`finite_milestone`).  The room comes
from the bound of sines and cosines, which is two.
-/

namespace RoadTraffic

open Binary32

/-- A pose without NaN and infinities. -/
structure Pose.Finite (pose : Pose) : Prop where
  position : pose.position.Fit
  heading : pose.heading.isFinite = true

/-- A car without NaN and infinities in what a road makes of it. -/
structure Car.Finite (car : Car) : Prop where
  progress : car.progress.isFinite = true
  pose : car.pose.Finite

/-!
## Points
-/

/-- Twice this way can be added to both coordinates of a point. -/
structure Point.Reaches (point : Point) (way : Float32) : Prop where
  x : (point.x.abs + (way + way)).isFinite = true
  y : (point.y.abs + (way + way)).isFinite = true

instance (point : Point) (way : Float32) : Decidable (point.Reaches way) :=
  decidable_of_iff ((point.x.abs + (way + way)).isFinite = true ∧
      (point.y.abs + (way + way)).isFinite = true)
    ⟨fun h => ⟨h.1, h.2⟩, fun h => ⟨h.x, h.y⟩⟩

variable {point : Point} {way distance angle : Float32}

theorem Point.Reaches.isFinite (hpoint : point.Fit) (h : point.Reaches way) (h0 : 0 ≤ way) :
    way.isFinite = true := by
  have hdouble := (isFinite_of_isFinite_add (abs_nonneg (isNaN_of_isFinite hpoint.x))
    (le_trans h0 (le_add h0 h0)) h.x).2
  exact (isFinite_of_isFinite_add h0 h0 hdouble).1

/-- A point at some distance within the reach has finite coordinates. -/
theorem Point.Reaches.offset (hpoint : point.Fit) (h : point.Reaches way) (h0 : 0 ≤ way)
    (hdistance : magnitude distance ≤ magnitude way) (hangle : angle.isFinite = true) :
    (point.offset angle distance).Fit where
  x := isFinite_along (isNaN_of_isFinite hpoint.x) h0 h.x hdistance
    (Trigonometry.magnitude_cos_le hangle)
  y := isFinite_along (isNaN_of_isFinite hpoint.y) h0 h.y hdistance
    (Trigonometry.magnitude_sin_le hangle)

/-!
## Straights
-/

variable {p q speed : Float32}

/-- The heading is finite on every straight. -/
theorem Straight.Fit.isFinite_heading {line : Straight} (h : line.Fit) :
    line.heading.isFinite = true :=
  Trigonometry.isFinite_atan2 (isNaN_sub_of_isFinite h.finish.y h.start.y)
    (isNaN_sub_of_isFinite h.finish.x h.start.x)

theorem Straight.Fit.finite_pose {line : Straight} (h : line.Fit)
    (hreach : line.start.Reaches line.length) (h0 : 0 ≤ p) (hp : p ≤ line.length) :
    p.isFinite = true ∧ Pose.Finite ⟨line.pointAt p, line.heading⟩ := by
  have hlength := le_of_lt h.length_pos
  refine ⟨isFinite_of_le h0 hp (hreach.isFinite h.start hlength), ?_, h.isFinite_heading⟩
  exact hreach.offset h.start hlength (magnitude_le h0 hp) h.isFinite_heading

/-!
## Arcs
-/

/-- No place on an arc, no angle and no stride of this angle overflows. -/
structure Arc.Tame (arc : Arc) (angle : Float32) : Prop where
  reach : arc.center.Reaches arc.radius
  stride : (arc.span + angle.abs).isFinite = true
  heading : (arc.startAngle.abs + arc.span + Trigonometry.halfPi).isFinite = true

instance (arc : Arc) (angle : Float32) : Decidable (arc.Tame angle) :=
  decidable_of_iff (arc.center.Reaches arc.radius ∧ (arc.span + angle.abs).isFinite = true ∧
      (arc.startAngle.abs + arc.span + Trigonometry.halfPi).isFinite = true)
    ⟨fun h => ⟨h.1, h.2.1, h.2.2⟩, fun h => ⟨h.reach, h.stride, h.heading⟩⟩

/-- A stride from an angle below the span, and where it is shown. -/
theorem Arc.Fit.finite_stride {arc : Arc} (h : arc.Fit) (htame : arc.Tame angle)
    (hq : q.abs < arc.span) : (q + angle).isFinite = true ∧ (arc.poseAt q).Finite := by
  have hspan := le_of_lt h.span_pos
  have hright : 0 ≤ Trigonometry.halfPi := by decide +kernel
  have hnum : q.isNaN = false := isNaN_of_isNaN_abs (lt_iff.mp hq).1
  have hangle : angle.isNaN = false := by
    have hsum := isNaN_of_isFinite htame.stride
    rw [add_comm] at hsum
    exact isNaN_of_isNaN_abs (isNaN_of_isNaN_add hsum)
  have hstart := isNaN_of_isFinite h.startAngle
  have hbelow : magnitude q ≤ magnitude arc.span := by
    rw [← (magnitude_abs hnum).1]
    exact magnitude_le (abs_nonneg hnum) (le_of_lt hq)
  obtain ⟨hfspan, hfangle⟩ := isFinite_of_isFinite_add hspan (abs_nonneg hangle) htame.stride
  have hturned : 0 ≤ arc.startAngle.abs + arc.span :=
    le_trans (abs_nonneg hstart) (le_add (abs_nonneg hstart) hspan)
  obtain ⟨hfturned, hfright⟩ := isFinite_of_isFinite_add hturned hright htame.heading
  have hturn := magnitude_add_le_abs hstart hspan hfturned hbelow
  refine ⟨?_, ?_, ?_⟩
  · refine isFinite_of_magnitude_le (magnitude_add_le hfspan hfangle hspan (abs_nonneg hangle)
      hbelow ?_) htame.stride
    exact Nat.le_of_eq (magnitude_abs hangle).1.symm
  · exact htame.reach.offset h.center (le_of_lt h.radius_pos) (Nat.le_refl _)
      (isFinite_of_magnitude_le hturn hfturned)
  · exact isFinite_of_magnitude_le
      (magnitude_add_le hfturned hfright hturned hright hturn (Nat.le_refl _)) htame.heading

/-!
## Milestones
-/

namespace Road

/-- Does nothing overflow on the road? -/
def Tame (road : Road) : Prop :=
  match road.course with
  | .straight line => line.start.Reaches line.length
  | .arc arc => arc.Tame (arc.direction * road.speed / arc.radius)

instance (road : Road) : Decidable road.Tame :=
  match hcourse : road.course with
  | .straight line =>
    decidable_of_iff (line.start.Reaches line.length) (by rw [Tame, hcourse])
  | .arc arc =>
    decidable_of_iff (arc.Tame (arc.direction * road.speed / arc.radius))
      (by rw [Tame, hcourse])

variable {road : Road}

theorem Tame.congr {a b : Road} (h : a.Tame) (hcourse : a.course = b.course)
    (hspeed : a.speed = b.speed) : b.Tame := by
  unfold Tame at h ⊢
  rwa [hcourse, hspeed] at h

/-- **Finite numbers.**  All that cars are given on a tame road is finite, if their strides
on an arc begin before the end. -/
theorem finite_milestone (hfit : road.Fit) (htame : road.Tame) {k : Nat}
    (hclear : road.isStraight = false → ∀ j < k, ¬ road.AtEnd (road.milestone j)) :
    (road.milestone k).isFinite = true ∧ (road.shown k).Finite := by
  unfold Tame at htame
  cases hcourse : road.course with
  | straight line =>
      rw [hcourse] at htame
      have hline := hfit.straight hcourse
      obtain ⟨h0, hle⟩ := milestone_range hfit hcourse k
      obtain ⟨hfinite, hpose⟩ := hline.finite_pose htame h0 hle
      refine ⟨hfinite, ?_⟩
      cases k with
      | zero =>
          rw [shown, hcourse]
          exact ⟨hline.start, hline.isFinite_heading⟩
      | succ k =>
          rw [shown, poseAfter, hcourse]
          exact hpose
  | arc arc =>
      rw [hcourse] at htame
      have harc := hfit.arc hcourse
      cases k with
      | zero =>
          have hzero : (0 : Float32).isFinite = true := by decide +kernel
          have habs : (0 : Float32).abs = 0 := by decide +kernel
          have hstart : (0 : Float32).abs < arc.span := habs.symm ▸ harc.span_pos
          rw [shown, hcourse]
          exact ⟨hzero, (harc.finite_stride htame hstart).2⟩
      | succ k =>
          have hbegan := hclear (isStraight_of_arc hcourse) k (Nat.lt_succ_self k)
          rw [AtEnd, hcourse, not_not] at hbegan
          rw [shown, poseAfter, milestone, stride, hcourse]
          exact harc.finite_stride htame hbegan

end Road

end RoadTraffic
