import RoadTraffic.Proofs.Checks
import RoadTraffic.Proofs.Number.Order
import RoadTraffic.Road.Basic

/-!
# Roads that are fit for traffic

What the checks of points, courses and roads ask for, said without them:

* `Straight.Fit`: both ends are finite, and the length is not zero or less;
* `Arc.Fit`: center, radius and angles are finite, the radius is above zero, and
  the span is not zero or less;
* `Road.Fit`: the course is fit, and the speed is finite and above zero.

A length can overflow to infinity, so it is only said of lengths and spans what
the checks ask, that they are not zero or less.
-/

namespace RoadTraffic

open Binary32

theorem checkFinite_eq_ok {x : Float32} : checkFinite x = .ok () ↔ x.isFinite = true := by
  rw [checkFinite_eq_ok_iff]
  exact ⟨And.right, fun h => ⟨isNaN_of_isFinite h, h⟩⟩

/-- Of two numbers one is above the other if it is not below or equal. -/
theorem not_le_zero_iff {x : Float32} (h : x.isFinite = true) : ¬ x ≤ 0 ↔ 0 < x := by
  have hx := isNaN_of_isFinite h
  have hzero : (0 : Float32).isNaN = false := by decide +kernel
  rw [le_iff, lt_iff]
  simp only [hx, hzero, true_and, Int.not_le]

/-- A point with finite coordinates. -/
structure Point.Fit (point : Point) : Prop where
  x : point.x.isFinite = true
  y : point.y.isFinite = true

theorem Point.check_eq_ok_iff (point : Point) : point.check = .ok () ↔ point.Fit := by
  unfold Point.check
  rw [bind_eq_ok_iff, mapError_eq_ok_iff, mapError_eq_ok_iff, checkFinite_eq_ok, checkFinite_eq_ok]
  exact ⟨fun h => ⟨h.1, h.2⟩, fun h => ⟨h.x, h.y⟩⟩

/-- A straight that cars can drive on. -/
structure Straight.Fit (line : Straight) : Prop where
  start : line.start.Fit
  finish : line.finish.Fit
  length : ¬ line.length ≤ 0

/-- An arc that cars can drive on. -/
structure Arc.Fit (arc : Arc) : Prop where
  center : arc.center.Fit
  radius : arc.radius.isFinite = true
  radius_pos : 0 < arc.radius
  startAngle : arc.startAngle.isFinite = true
  endAngle : arc.endAngle.isFinite = true
  span : ¬ arc.span ≤ 0

/-- A course that cars can drive on. -/
def Course.Fit : Course → Prop
  | .straight line => line.Fit
  | .arc a => a.Fit

/-- A road that cars can drive on. -/
structure Road.Fit (road : Road) : Prop where
  course : road.course.Fit
  speed : road.speed.isFinite = true
  speed_pos : 0 < road.speed

theorem Road.Fit.straight {road : Road} {line : Straight} (h : road.Fit)
    (hcourse : road.course = .straight line) : line.Fit := by
  have hfit := h.course
  rwa [hcourse] at hfit

theorem Road.Fit.arc {road : Road} {arc : Arc} (h : road.Fit) (hcourse : road.course = .arc arc) :
    arc.Fit := by
  have hfit := h.course
  rwa [hcourse] at hfit

theorem Straight.check_eq_ok_iff (line : Straight) : line.check = .ok () ↔ line.Fit := by
  have hcheck : line.check = (do
      line.start.check.mapError .startPoint
      line.finish.check.mapError .endPoint
      refuseIf (line.length ≤ 0) .zeroLength) := rfl
  rw [hcheck]
  simp only [bind_eq_ok_iff, mapError_eq_ok_iff, refuseIf_eq_ok_iff, Point.check_eq_ok_iff]
  constructor
  · intro h
    obtain ⟨hs, hf, hl⟩ := h
    exact ⟨hs, hf, hl⟩
  · intro h
    exact ⟨h.start, h.finish, h.length⟩

theorem Arc.check_eq_ok_iff (arc : Arc) : arc.check = .ok () ↔ arc.Fit := by
  have hcheck : arc.check = (do
      arc.center.check.mapError .center
      (checkFinite arc.radius).mapError .radius
      refuseIf (arc.radius ≤ 0) (.radiusNotPositive arc.radius)
      (checkFinite arc.startAngle).mapError .startAngle
      (checkFinite arc.endAngle).mapError .endAngle
      refuseIf (arc.span ≤ 0) .zeroSpan) := by
    simp only [← ite_throw_bind]
    rfl
  rw [hcheck]
  simp only [bind_eq_ok_iff, mapError_eq_ok_iff, refuseIf_eq_ok_iff, Point.check_eq_ok_iff,
    checkFinite_eq_ok]
  constructor
  · intro hsome
    obtain ⟨hc, hr, hpos, hs, he, hspan⟩ := hsome
    exact ⟨hc, hr, (not_le_zero_iff hr).mp hpos, hs, he, hspan⟩
  · intro h
    exact ⟨h.center, h.radius, (not_le_zero_iff h.radius).mpr h.radius_pos, h.startAngle,
      h.endAngle, h.span⟩

theorem Course.check_eq_ok_iff (course : Course) : course.check = .ok () ↔ course.Fit := by
  cases course with
  | straight line => exact line.check_eq_ok_iff
  | arc a => exact a.check_eq_ok_iff

/-- A road passes its check exactly if it is fit. -/
theorem Road.check_eq_ok_iff (road : Road) : road.check = .ok () ↔ road.Fit := by
  have hcheck : road.check = (do
      road.course.check.mapError (.course road.id)
      (checkFinite road.speed).mapError .speed
      refuseIf (road.speed ≤ 0) (.speedNotPositive road.id road.speed)) := rfl
  rw [hcheck]
  simp only [bind_eq_ok_iff, mapError_eq_ok_iff, refuseIf_eq_ok_iff, Course.check_eq_ok_iff,
    checkFinite_eq_ok]
  constructor
  · intro hsome
    obtain ⟨hc, hs, hpos⟩ := hsome
    exact ⟨hc, hs, (not_le_zero_iff hs).mp hpos⟩
  · intro h
    exact ⟨h.course, h.speed, (not_le_zero_iff h.speed).mpr h.speed_pos⟩

end RoadTraffic
