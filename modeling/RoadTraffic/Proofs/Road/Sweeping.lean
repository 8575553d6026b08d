import RoadTraffic.Proofs.Number.Magnitudes
import RoadTraffic.Proofs.Road.Strides

/-!
# The angles that an arc covers

An arc has two angles and a flag.  Its cars start at the first angle, and the flag alone
names the direction in which they travel.  The second angle only says how far that is, since
the span has no sign.  So an arc ends at the angle

    last  =  start + direction * span.

That is its second angle, up to rounding, if the flag names the direction from the first to the
second (`Arc.Agrees`).  If the flag names the other direction, the arc ends at the mirror image
of the second angle in the first one (`Arc.Fit.finish_eq`).  The checks of an arc let both
through.

* `Arc.Fit.covers`: an angle before the end of an arc is between the first and `last`;
* `Arc.Fit.delimits`: where the flag agrees it is also between the two angles of the arc, and no
  rounding leads past the second one;
* `Arc.Fit.last_error`: how far `last` is from where the arc would end without rounding;
* `Road.leads_milestone`: strides lead on in the direction of the flag.
-/

namespace RoadTraffic

open Binary32 Float.Model Float.Model.UnpackedFloat

namespace Arc

/-- The angle at which an arc ends. -/
def last (arc : Arc) : Float32 := arc.startAngle + arc.direction * arc.span

/-- Does the direction of travel lead from `a` to `b`, or are they the same? -/
def Leads (arc : Arc) (a b : Float32) : Prop :=
  if arc.counterclockwise then b ≤ a else a ≤ b

/-- Does the direction of travel lead from the first angle to the second? -/
def Agrees (arc : Arc) : Prop :=
  if arc.counterclockwise then arc.endAngle < arc.startAngle else arc.startAngle < arc.endAngle

instance (arc : Arc) : Decidable arc.Agrees :=
  inferInstanceAs (Decidable (if arc.counterclockwise then arc.endAngle < arc.startAngle
    else arc.startAngle < arc.endAngle))

/-- Is the angle between those at which the arc starts and ends? -/
structure Covers (arc : Arc) (angle : Float32) : Prop where
  start : arc.Leads arc.startAngle angle
  last : arc.Leads angle arc.last

/-- Is the angle between the two angles of the arc? -/
def Delimits (arc : Arc) (angle : Float32) : Prop :=
  (arc.startAngle ≤ angle ∧ angle ≤ arc.endAngle) ∨ (arc.endAngle ≤ angle ∧ angle ≤ arc.startAngle)

/-- The angle at which the arc would end without rounding. -/
def finish (arc : Arc) : ℚ :=
  if arc.counterclockwise then
    value arc.startAngle - |value arc.endAngle - value arc.startAngle|
  else value arc.startAngle + |value arc.endAngle - value arc.startAngle|

variable {arc : Arc} {a b c p q : Float32}

theorem leads_self (h : a.isNaN = false) : arc.Leads a a := by
  unfold Leads
  split <;> exact le_self h

/-- An angle from the start is on the side of the direction of travel if that leads there from
zero. -/
theorem Onward.leads (h : arc.Onward q) : arc.Leads 0 q := h

theorem Leads.trans (hab : arc.Leads a b) (hbc : arc.Leads b c) : arc.Leads a c := by
  unfold Leads at *
  split at hab
  · next hback =>
      rw [if_pos hback] at hbc ⊢
      exact le_trans hbc hab
  · next hforth =>
      rw [if_neg hforth] at hbc ⊢
      exact le_trans hab hbc

theorem Leads.isNaN (h : arc.Leads a b) : a.isNaN = false ∧ b.isNaN = false := by
  unfold Leads at h
  split at h
  · exact ⟨(le_iff.mp h).2.1, (le_iff.mp h).1⟩
  · exact ⟨(le_iff.mp h).1, (le_iff.mp h).2.1⟩

theorem magnitude_direction (arc : Arc) : magnitude arc.direction = magnitude 1 := by
  unfold direction
  split <;> decide +kernel

theorem sign_direction (arc : Arc) :
    sign arc.direction = if arc.counterclockwise then .negative else .positive := by
  unfold direction
  split <;> rfl

namespace Fit

/-!
## Angles from the start
-/

theorem isNaN_span (h : arc.Fit) : arc.span.isNaN = false := (lt_iff.mp h.span_pos).2.1

/-- The first angle is finite, so it has a sum with every number. -/
theorem isNaN_add (h : arc.Fit) (hq : q.isNaN = false) : (arc.startAngle + q).isNaN = false := by
  rcases isFinite_or_infinity hq with hfinite | ⟨hinf, -⟩
  · exact (rank_add h.startAngle hfinite).2
  · exact (rank_add_infinity h.startAngle hinf).2

theorem leads_add (h : arc.Fit) (hpq : arc.Leads p q) :
    arc.Leads (arc.startAngle + p) (arc.startAngle + q) := by
  have hp := h.isNaN_add hpq.isNaN.1
  have hq := h.isNaN_add hpq.isNaN.2
  unfold Leads at hpq ⊢
  split at hpq
  · next hback =>
      rw [if_pos hback]
      exact Binary32.add_le_add_left hpq hq hp
  · next hforth =>
      rw [if_neg hforth]
      exact Binary32.add_le_add_left hpq hp hq

theorem leads_start (h : arc.Fit) (hq : arc.Onward q) :
    arc.Leads arc.startAngle (arc.startAngle + q) := by
  have hnum := isNaN_of_isFinite h.startAngle
  obtain ⟨hsame, hzero⟩ := rank_add_zero hnum rank_zero
  have hfrom : arc.Leads arc.startAngle (arc.startAngle + 0) := by
    unfold Leads
    split
    · exact le_iff.mpr ⟨hzero, hnum, Int.le_of_eq hsame⟩
    · exact le_iff.mpr ⟨hnum, hzero, Int.le_of_eq hsame.symm⟩
  exact hfrom.trans (h.leads_add hq.leads)

/-- The span, with the sign of the direction. -/
theorem rank_turn (h : arc.Fit) : (arc.direction * arc.span).isNaN = false ∧
    rank (arc.direction * arc.span) =
      if arc.counterclockwise then -rank arc.span else rank arc.span := by
  obtain ⟨hrank, hnum⟩ := rank_mul_of_unit arc.magnitude_direction h.isNaN_span
  refine ⟨hnum, ?_⟩
  rw [hrank, sign_direction]
  split <;> rfl

/-- An angle of less than the span leads to an angle before the end. -/
theorem leads_turn (h : arc.Fit) (hq : arc.Onward q) (hlt : q.abs < arc.span) :
    arc.Leads q (arc.direction * arc.span) := by
  obtain ⟨hnum, hturn⟩ := h.rank_turn
  obtain ⟨-, -, hrank⟩ := lt_iff.mp hlt
  have hnan := hq.leads.isNaN.2
  rw [rank_abs hnan] at hrank
  unfold Onward at hq
  unfold Leads
  split at hq
  · next hback =>
      rw [if_pos hback] at hturn ⊢
      exact le_iff.mpr ⟨hnum, hnan, by omega⟩
  · next hforth =>
      rw [if_neg hforth] at hturn ⊢
      exact le_iff.mpr ⟨hnan, hnum, by omega⟩

/-- **Angles before the end** are covered. -/
theorem covers (h : arc.Fit) (hq : arc.Onward q) (hlt : q.abs < arc.span) :
    arc.Covers (arc.startAngle + q) :=
  ⟨h.leads_start hq, h.leads_add (h.leads_turn hq hlt)⟩

/-!
## Arcs whose flag agrees
-/

/-- The difference of the two angles has the sign of the direction. -/
theorem rank_sub_of_agrees (h : arc.Fit) (hagrees : arc.Agrees) :
    rank (arc.endAngle - arc.startAngle) =
      if arc.counterclockwise then -rank arc.span else rank arc.span := by
  obtain ⟨hrank, hnum⟩ := rank_sub h.endAngle h.startAngle
  have hspan : rank arc.span = (rank (arc.endAngle - arc.startAngle)).natAbs := rank_abs hnum
  unfold Agrees at hagrees
  split at hagrees
  · next hback =>
      obtain ⟨-, -, hlt⟩ := lt_iff.mp hagrees
      have hle := signedSteps_le h.endAngle h.startAngle (Int.le_of_lt hlt)
      have hside := nearest_mono (Int.sub_nonpos_of_le hle)
      rw [← hrank, nearest_zero] at hside
      rw [if_pos hback]
      omega
  · next hforth =>
      obtain ⟨-, -, hlt⟩ := lt_iff.mp hagrees
      have hle := signedSteps_le h.startAngle h.endAngle (Int.le_of_lt hlt)
      have hside := nearest_mono (Int.sub_nonneg_of_le hle)
      rw [← hrank, nearest_zero] at hside
      rw [if_neg hforth]
      omega

/-- **Angles before the end** are between the two angles of an arc whose flag agrees. -/
theorem delimits (h : arc.Fit) (hagrees : arc.Agrees) (hq : arc.Onward q)
    (hlt : q.abs < arc.span) : arc.Delimits (arc.startAngle + q) := by
  have hdifference := h.rank_sub_of_agrees hagrees
  have hnum := (rank_sub h.endAngle h.startAngle).2
  obtain ⟨-, -, hrank⟩ := lt_iff.mp hlt
  have hnan := hq.leads.isNaN.2
  rw [rank_abs hnan] at hrank
  have hfinite : q.isFinite = true := by
    have hle := natAbs_rank_le h.isNaN_span
    rw [isFinite_iff, magnitude_eq_natAbs_rank]
    omega
  have hstart := h.leads_start hq
  unfold Leads at hstart
  unfold Onward at hq
  split at hq
  · next hback =>
      rw [if_pos hback] at hdifference hstart
      have hbelow : arc.endAngle - arc.startAngle < q := lt_iff.mpr ⟨hnum, hnan, by omega⟩
      exact Or.inr ⟨le_add_of_sub_lt h.startAngle h.endAngle hfinite hbelow, hstart⟩
  · next hforth =>
      rw [if_neg hforth] at hdifference hstart
      have habove : q < arc.endAngle - arc.startAngle := lt_iff.mpr ⟨hnan, hnum, by omega⟩
      exact Or.inl ⟨hstart, add_le_of_lt_sub h.startAngle h.endAngle hfinite habove⟩

/-!
## Where an arc ends
-/

/-- Without rounding an arc would end at its second angle, or at the mirror image of it. -/
theorem finish_eq (h : arc.Fit) : arc.finish =
    if arc.Agrees then value arc.endAngle
    else 2 * value arc.startAngle - value arc.endAngle := by
  have hs := isNaN_of_isFinite h.startAngle
  have he := isNaN_of_isFinite h.endAngle
  by_cases hagrees : arc.Agrees
  · rw [if_pos hagrees]
    unfold Agrees at hagrees
    unfold finish
    split at hagrees
    · next hback =>
        have hle := value_le h.endAngle h.startAngle (le_of_lt hagrees)
        rw [if_pos hback, abs_of_nonpos (sub_nonpos.mpr hle)]
        ring
    · next hforth =>
        have hle := value_le h.startAngle h.endAngle (le_of_lt hagrees)
        rw [if_neg hforth, abs_of_nonneg (sub_nonneg.mpr hle)]
        ring
  · rw [if_neg hagrees]
    unfold Agrees at hagrees
    unfold finish
    split at hagrees
    · next hback =>
        have hle := value_le h.startAngle h.endAngle (le_of_not_lt he hs hagrees)
        rw [if_pos hback, abs_of_nonneg (sub_nonneg.mpr hle)]
        ring
    · next hforth =>
        have hle := value_le h.endAngle h.startAngle (le_of_not_lt hs he hagrees)
        rw [if_neg hforth, abs_of_nonpos (sub_nonpos.mpr hle)]
        ring

/-- If an arc ends at a finite angle, its span has not overflowed. -/
theorem isFinite_of_last (h : arc.Fit) (hlast : arc.last.isFinite = true) :
    (arc.endAngle - arc.startAngle).isFinite = true ∧
      (arc.direction * arc.span).isFinite = true := by
  obtain ⟨hnum, -⟩ := h.rank_turn
  have hturn : (arc.direction * arc.span).isFinite = true := by
    rcases isFinite_or_infinity hnum with hfinite | ⟨hinf, -⟩
    · exact hfinite
    · have hrank := (rank_add_infinity h.startAngle hinf).1
      have hlt := natAbs_rank_lt hlast
      rw [last, hrank] at hlt
      cases hs : sign (arc.direction * arc.span) <;> rw [hs, Sign.apply] at hlt <;> omega
  refine ⟨?_, hturn⟩
  rw [isFinite_iff, (mul_of_unit arc.magnitude_direction h.isNaN_span).1, Arc.span,
    (magnitude_abs (rank_sub h.endAngle h.startAngle).2).1] at hturn
  exact (isFinite_iff _).mpr hturn

/-- The span is rounded once. -/
theorem turn_error (h : arc.Fit) (hsub : (arc.endAngle - arc.startAngle).isFinite = true) :
    |value arc.startAngle + value (arc.direction * arc.span) - arc.finish| ≤
      |value arc.endAngle - value arc.startAngle| / 2 ^ 24 := by
  have hvalue : value (arc.direction * arc.span) = if arc.counterclockwise then
      -|value (arc.endAngle - arc.startAngle)| else |value (arc.endAngle - arc.startAngle)| := by
    rw [← value_abs hsub, ← Arc.span]
    unfold value
    rw [signedSteps_mul_of_unit arc.magnitude_direction h.isNaN_span, sign_direction]
    split
    · rw [Sign.apply, Int.cast_neg, neg_div]
    · rfl
  have herror := value_sub_error h.endAngle h.startAngle hsub
  rw [hvalue, finish]
  generalize value (arc.endAngle - arc.startAngle) = rounded at herror ⊢
  generalize value arc.endAngle - value arc.startAngle = exact at herror ⊢
  have habs := (abs_abs_sub_abs_le rounded exact).trans herror
  split
  · rwa [add_sub_sub_cancel, neg_add_eq_sub, abs_sub_comm]
  · rwa [add_sub_add_left_eq_sub]

/-- **The end of an arc**, up to rounding. -/
theorem last_error (h : arc.Fit) (hlast : arc.last.isFinite = true) :
    |value arc.last - arc.finish| ≤
      (|value arc.startAngle| + |value arc.endAngle|) / 2 ^ 22 := by
  obtain ⟨hsub, hturn⟩ := h.isFinite_of_last hlast
  have hsum := value_add_error h.startAngle hturn hlast
  have hspan := h.turn_error hsub
  have hwidth := abs_sub (value arc.endAngle) (value arc.startAngle)
  have hexact : |arc.finish| ≤
      |value arc.startAngle| + |value arc.endAngle - value arc.startAngle| := by
    unfold finish
    split
    · exact (abs_sub _ _).trans_eq (by rw [abs_abs])
    · exact (abs_add_le _ _).trans_eq (by rw [abs_abs])
  rw [← last] at hsum
  have hrounded := abs_sub_abs_le_abs_sub
    (value arc.startAngle + value (arc.direction * arc.span)) arc.finish
  have htotal := abs_sub_le (value arc.last)
    (value arc.startAngle + value (arc.direction * arc.span)) arc.finish
  have hstart := abs_nonneg (value arc.startAngle)
  have hend := abs_nonneg (value arc.endAngle)
  linarith

end Fit

end Arc

namespace Road

variable {road : Road} {arc : Arc}

/-- **Strides lead on.** -/
theorem leads_milestone (hfit : road.Fit) (hcourse : road.course = .arc arc) {j k : Nat}
    (hle : j ≤ k) : arc.Leads (road.milestone j) (road.milestone k) := by
  have hangle := (hfit.arc hcourse).onward hfit.speed hfit.speed_pos
  have hstride : ∀ p, road.stride p = p + arc.direction * road.speed / arc.radius := by
    intro p
    rw [stride, hcourse]
  induction hle with
  | refl => exact Arc.leads_self (onward_milestone hfit hcourse j).leads.isNaN.2
  | @step m hle ih =>
      refine ih.trans ?_
      have hside := onward_milestone hfit hcourse m
      rw [milestone, hstride]
      unfold Arc.Onward at hangle hside
      unfold Arc.Leads
      split at hangle
      · next hback =>
          rw [if_pos hback] at hside ⊢
          exact add_le hside hangle
      · next hforth =>
          rw [if_neg hforth] at hside ⊢
          exact le_add hside hangle

end Road

end RoadTraffic
