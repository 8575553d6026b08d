import RoadTraffic.Proofs.Number.Growth
import RoadTraffic.Proofs.Road.Strides

/-!
# Roads that lead to their end

On a road that is open a car takes one stride in each tick, and departs when it has come to the
end.  The stride of a road is a number above zero, or should be, but it is added to a progress
that grows, and rounding may take all of it away.

Whether that comes about before the end is a matter of two numbers, the stride and the length or
the span.  A road is `Brisk` if its stride is not zero, and its extent is up to the limit of
the stride, `2 ^ 24` times the least power of two that is not below it:

* on a brisk road each stride leads further, until the end is reached
  (`Brisk.come_lt`, `Brisk.exists_isLeast_atEnd`);
* on every other road a car comes to a point before the end where its strides lead nowhere
  (`exists_stalled`).

This covers strides and extents that have overflowed to infinity.

The checks of a road see to none of this.  Its speed is above zero, but the stride of an arc is
the quotient of speed and radius and may underflow to zero, and no extent is too great.
-/

namespace RoadTraffic

open Binary32

namespace Road

/-- What a stride adds to the progress. -/
def pace (road : Road) : Float32 :=
  match road.course with
  | .straight _ => road.speed
  | .arc arc => arc.direction * road.speed / arc.radius

/-- The length of a straight, or the span of an arc. -/
def extent (road : Road) : Float32 :=
  match road.course with
  | .straight line => line.length
  | .arc arc => arc.span

/-- Is no stride before the end lost to rounding?  An infinite stride or extent counts as
`2 ^ 277` steps here: a straight whose length has overflowed is brisk if its speed is above
`2 ^ 103`, and cars come to its end when their progress overflows as well. -/
structure Brisk (road : Road) : Prop where
  pace : 0 < steps road.pace
  extent : steps road.extent ≤ limit (steps road.pace)

instance (road : Road) : Decidable road.Brisk :=
  decidable_of_iff (0 < steps road.pace ∧ steps road.extent ≤ limit (steps road.pace))
    ⟨fun h => ⟨h.1, h.2⟩, fun h => ⟨h.pace, h.extent⟩⟩

variable {road : Road} {p : Float32} {i j k : Nat}

/-!
## Progress by its magnitude
-/

theorem extent_pos (hfit : road.Fit) : 0 < road.extent := by
  unfold extent
  cases hcourse : road.course with
  | straight line => exact (hfit.straight hcourse).length_pos
  | arc arc => exact (hfit.arc hcourse).span_pos

/-- All strides lead to the same side of the start. -/
theorem side (hfit : road.Fit) :
    (0 ≤ road.pace ∧ ∀ k, 0 ≤ road.milestone k) ∨
      (road.pace ≤ 0 ∧ ∀ k, road.milestone k ≤ 0) := by
  unfold pace
  cases hcourse : road.course with
  | straight line =>
      exact Or.inl ⟨le_of_lt hfit.speed_pos, fun k => (milestone_range hfit hcourse k).1⟩
  | arc arc =>
      have hpace := (hfit.arc hcourse).onward hfit.speed hfit.speed_pos
      have hmilestone := onward_milestone hfit hcourse
      unfold Arc.Onward at hpace hmilestone
      cases hback : arc.counterclockwise with
      | true =>
          simp only [hback, if_true] at hpace hmilestone
          exact Or.inr ⟨hpace, hmilestone⟩
      | false =>
          simp only [hback, Bool.false_eq_true, if_false] at hpace hmilestone
          exact Or.inl ⟨hpace, hmilestone⟩

theorem isNaN_milestone (hfit : road.Fit) (k : Nat) : (road.milestone k).isNaN = false := by
  rcases side hfit with ⟨-, hside⟩ | ⟨-, hside⟩
  · exact (le_iff.mp (hside k)).2.1
  · exact (le_iff.mp (hside k)).1

theorem isNaN_pace (hfit : road.Fit) : road.pace.isNaN = false := by
  rcases side hfit with ⟨hpace, -⟩ | ⟨hpace, -⟩
  · exact (le_iff.mp hpace).2.1
  · exact (le_iff.mp hpace).1

theorem come_nonneg (hfit : road.Fit) (k : Nat) : 0 ≤ road.come (road.milestone k) := by
  unfold come
  cases hcourse : road.course with
  | straight line => exact (milestone_range hfit hcourse k).1
  | arc arc => exact abs_nonneg (isNaN_milestone hfit k)

theorem magnitude_come (h : p.isNaN = false) : magnitude (road.come p) = magnitude p := by
  unfold come
  cases road.course with
  | straight line => rfl
  | arc arc => exact (magnitude_abs h).1

theorem come_lt_iff (hfit : road.Fit) : road.come (road.milestone i) < road.come (road.milestone j) ↔
    magnitude (road.milestone i) < magnitude (road.milestone j) := by
  rw [lt_iff_magnitude_lt (come_nonneg hfit i) (come_nonneg hfit j),
    magnitude_come (isNaN_milestone hfit i), magnitude_come (isNaN_milestone hfit j)]

theorem atEnd_iff (hfit : road.Fit) (k : Nat) :
    road.AtEnd (road.milestone k) ↔ magnitude road.extent ≤ magnitude (road.milestone k) := by
  have hend : road.AtEnd (road.milestone k) ↔ ¬ road.come (road.milestone k) < road.extent := by
    unfold AtEnd come extent
    cases road.course <;> rfl
  rw [hend, lt_iff_magnitude_lt (come_nonneg hfit k) (le_of_lt (extent_pos hfit)),
    magnitude_come (isNaN_milestone hfit k), Nat.not_lt]

/-- Milestones of one magnitude are the same, apart from zero. -/
theorem milestone_eq_of_magnitude_eq (hfit : road.Fit)
    (h : magnitude (road.milestone i) = magnitude (road.milestone j))
    (hne : magnitude (road.milestone i) ≠ 0) : road.milestone i = road.milestone j := by
  rw [magnitude_eq_natAbs_rank, magnitude_eq_natAbs_rank] at h
  rw [magnitude_eq_natAbs_rank] at hne
  have hrank : rank (road.milestone i) = rank (road.milestone j) := by
    rcases side hfit with ⟨-, hside⟩ | ⟨-, hside⟩
    · have hi := (le_iff.mp (hside i)).2.2
      have hj := (le_iff.mp (hside j)).2.2
      rw [rank_zero] at hi hj
      omega
    · have hi := (le_iff.mp (hside i)).2.2
      have hj := (le_iff.mp (hside j)).2.2
      rw [rank_zero] at hi hj
      omega
  exact eq_of_rank_eq hrank (by omega)

/-!
## One stride
-/

/-- A milestone before the end is finite. -/
theorem isFinite_milestone (hfit : road.Fit) (hclear : ¬ road.AtEnd (road.milestone k)) :
    (road.milestone k).isFinite = true := by
  rw [atEnd_iff hfit, Nat.not_le] at hclear
  have hle := natAbs_rank_le (lt_iff.mp (extent_pos hfit)).2.1
  rw [← magnitude_eq_natAbs_rank] at hle
  exact (isFinite_iff _).mpr (Nat.lt_of_lt_of_le hclear hle)

/-- **One stride.**  Before the end the steps of the stride are added and rounded, unless this
leads past the end. -/
theorem magnitude_milestone_succ (hfit : road.Fit) (hclear : ¬ road.AtEnd (road.milestone k)) :
    magnitude (road.milestone (k + 1)) =
        magnitudeBits (steps (road.milestone k) + steps road.pace) 1 ∨
      (road.AtEnd (road.milestone (k + 1)) ∧ magnitude road.extent ≤
        magnitudeBits (steps (road.milestone k) + steps road.pace) 1) := by
  have hfinite := isFinite_milestone hfit hclear
  have hsame : (0 ≤ road.milestone k ∧ 0 ≤ road.pace) ∨
      (road.milestone k ≤ 0 ∧ road.pace ≤ 0) :=
    (side hfit).imp (fun h => ⟨h.2 k, h.1⟩) fun h => ⟨h.2 k, h.1⟩
  have hsum := magnitude_add_of_same_side hfinite hsame
  have hpos := extent_pos hfit
  rw [← hsum, atEnd_iff hfit, milestone]
  unfold stride
  unfold pace at hsum ⊢
  unfold extent at hpos ⊢
  cases hcourse : road.course with
  | straight line =>
      rw [hcourse] at hpos
      have hle := le_add (milestone_range hfit hcourse k).1 (le_of_lt hfit.speed_pos)
      simp only [Scalar.lesser]
      rw [(le_iff.mp hle).2.1, if_neg Bool.false_ne_true]
      split
      · next hover =>
          have h0 := le_trans (milestone_range hfit hcourse k).1 hle
          have hlt := (lt_iff_magnitude_lt (le_of_lt hpos) h0).mp hover
          exact Or.inr ⟨Nat.le_refl _, Nat.le_of_lt hlt⟩
      · exact Or.inl rfl
  | arc arc => exact Or.inl rfl

/-!
## Brisk roads
-/

/-- **Each stride leads further** on a brisk road, until the end is reached. -/
theorem Brisk.come_lt (h : road.Brisk) (hfit : road.Fit)
    (hclear : ¬ road.AtEnd (road.milestone k)) :
    road.come (road.milestone k) < road.come (road.milestone (k + 1)) := by
  have hbefore := hclear
  rw [atEnd_iff hfit, Nat.not_le] at hbefore
  have hbelow : steps (road.milestone k) < limit (steps road.pace) := by
    refine Nat.lt_of_lt_of_le ?_ h.extent
    by_contra hnot
    have hback := magnitudeBits_mono (Nat.not_lt.mp hnot)
    rw [magnitudeBits_steps (isNaN_milestone hfit k),
      magnitudeBits_steps (lt_iff.mp (extent_pos hfit)).2.1] at hback
    omega
  have hgrows := lt_magnitudeBits_add (isFinite_milestone hfit hclear) h.pace hbelow
  rw [come_lt_iff hfit]
  rcases magnitude_milestone_succ hfit hclear with hsum | ⟨hend, -⟩
  · rw [hsum]
    exact hgrows
  · exact Nat.lt_of_lt_of_le hbefore ((atEnd_iff hfit (k + 1)).mp hend)

/-- On a brisk road some number of strides leads to the end. -/
theorem Brisk.exists_isLeast_atEnd (h : road.Brisk) (hfit : road.Fit) :
    ∃ K, IsLeast {k | road.AtEnd (road.milestone k)} K := by
  suffices hsome : ∃ k, road.AtEnd (road.milestone k) from
    ⟨Nat.find hsome, Nat.find_spec hsome, fun k hk => Nat.find_min' hsome hk⟩
  by_contra hnever
  have hclear : ∀ k, ¬ road.AtEnd (road.milestone k) := not_exists.mp hnever
  -- The magnitudes grow by one at least, and all are below that of the extent.
  have hgrows : StrictMono fun k => magnitude (road.milestone k) :=
    strictMono_nat_of_lt_succ fun k => (come_lt_iff hfit).mp (h.come_lt hfit (hclear k))
  exact hclear _ ((atEnd_iff hfit _).mpr hgrows.le_apply)

/-!
## All other roads
-/

/-- A stride of zero leads nowhere. -/
theorem milestone_eq_zero (hfit : road.Fit) (hzero : steps road.pace = 0) (k : Nat) :
    road.milestone k = 0 := by
  induction k with
  | zero => rfl
  | succ k ih =>
      have hadd := zero_add_of_steps_eq_zero (isNaN_pace hfit) hzero
      rw [milestone, ih, stride]
      rw [pace] at hzero hadd
      cases hcourse : road.course with
      | straight line =>
          -- The speed of a straight is its stride, and is not zero.
          rw [hcourse] at hzero
          have hgrows := (lt_iff_magnitude_lt (le_self isNaN_zero)
            (le_of_lt hfit.speed_pos)).mp hfit.speed_pos
          have hbits := magnitudeBits_steps (isNaN_of_isFinite hfit.speed)
          have hnone : magnitudeBits 0 1 = 0 := by decide +kernel
          rw [hzero, hnone] at hbits
          omega
      | arc arc =>
          rw [hcourse] at hadd
          exact hadd

/-- Where the extent is past the limit of the stride, no milestone is. -/
theorem magnitude_milestone_le (hfit : road.Fit)
    (hpast : limit (steps road.pace) < steps road.extent) (k : Nat) :
    magnitude (road.milestone k) ≤ magnitudeBits (limit (steps road.pace)) 1 ∧
      ¬ road.AtEnd (road.milestone k) := by
  have hbefore := limit_lt_of_lt hpast
  suffices hle : magnitude (road.milestone k) ≤ magnitudeBits (limit (steps road.pace)) 1 from
    ⟨hle, fun hend => Nat.not_lt.mpr ((atEnd_iff hfit k).mp hend) (Nat.lt_of_le_of_lt hle hbefore)⟩
  induction k with
  | zero =>
      have hzero : magnitude (0 : Float32) = 0 := by decide +kernel
      rw [milestone, hzero]
      exact Nat.zero_le _
  | succ k ih =>
      have hclear : ¬ road.AtEnd (road.milestone k) := fun hend =>
        Nat.not_lt.mpr ((atEnd_iff hfit k).mp hend) (Nat.lt_of_le_of_lt ih hbefore)
      have hsteps : steps (road.milestone k) ≤ limit (steps road.pace) := by
        by_contra hnot
        exact Nat.not_lt.mpr ih (limit_lt_of_lt (Nat.not_le.mp hnot))
      have hsum := magnitudeBits_add_le_limit hsteps
      rcases magnitude_milestone_succ hfit hclear with heq | ⟨-, hover⟩
      · rw [heq]
        exact hsum
      · omega

/-- Before the end a stride that does not lead further leads nowhere. -/
theorem milestone_succ_eq (hfit : road.Fit) (hpace : 0 < steps road.pace)
    (hclear : ¬ road.AtEnd (road.milestone k)) (hnext : ¬ road.AtEnd (road.milestone (k + 1)))
    (hstill : ¬ magnitude (road.milestone k) < magnitude (road.milestone (k + 1))) :
    road.milestone (k + 1) = road.milestone k := by
  have hback := magnitude_le (come_nonneg hfit k) (come_milestone_le hfit (Nat.le_succ k))
  rw [magnitude_come (isNaN_milestone hfit k),
    magnitude_come (isNaN_milestone hfit (k + 1))] at hback
  refine milestone_eq_of_magnitude_eq hfit (Nat.le_antisymm (Nat.not_lt.mp hstill) hback) ?_
  rcases magnitude_milestone_succ hfit hclear with hsum | ⟨hend, -⟩
  · have hmono := magnitudeBits_mono (Nat.le_add_left (steps road.pace) (steps (road.milestone k)))
    rw [magnitudeBits_steps (isNaN_pace hfit), ← hsum] at hmono
    intro hnone
    rw [hnone] at hmono
    exact Nat.ne_of_gt hpace (steps_eq_zero (Nat.le_zero.mp hmono))
  · exact absurd hend hnext

/-- From a stride on that leads nowhere, all lead to the same point. -/
theorem milestone_eq_min {n : Nat} (hsame : road.milestone (n + 1) = road.milestone n) (k : Nat) :
    road.milestone k = road.milestone (min k n) := by
  induction k with
  | zero => rw [Nat.zero_min]
  | succ k ih =>
      rcases Nat.lt_or_ge k n with hlt | hge
      · rw [Nat.min_eq_left hlt]
      · rw [Nat.min_eq_right hge] at ih
        rw [Nat.min_eq_right (Nat.le_succ_of_le hge), milestone, ih]
        exact hsame

/-- **A road that is not brisk does not lead to its end.**  From some stride on all of them lead
to the same point, and that is before the end. -/
theorem exists_stalled (hfit : road.Fit) (h : ¬ road.Brisk) :
    ∃ n, ∀ k, ¬ road.AtEnd (road.milestone k) ∧ road.milestone k = road.milestone (min k n) := by
  rcases Nat.eq_zero_or_pos (steps road.pace) with hzero | hpace
  · refine ⟨0, fun k => ?_⟩
    rw [milestone_eq_zero hfit hzero, milestone_eq_zero hfit hzero]
    exact ⟨not_atEnd_zero hfit, rfl⟩
  · have hpast : limit (steps road.pace) < steps road.extent :=
      Nat.not_le.mp fun hle => h ⟨hpace, hle⟩
    have hbound := magnitude_milestone_le hfit hpast
    -- The magnitudes cannot grow for ever.
    have hstill : ∃ n, ¬ magnitude (road.milestone n) < magnitude (road.milestone (n + 1)) := by
      by_contra hnever
      have hgrows : StrictMono fun k => magnitude (road.milestone k) :=
        strictMono_nat_of_lt_succ fun k => not_not.mp (not_exists.mp hnever k)
      exact Nat.not_succ_le_self _ (Nat.le_trans hgrows.le_apply (hbound _).1)
    obtain ⟨n, hn⟩ := hstill
    have hsame := milestone_succ_eq hfit hpace (hbound n).2 (hbound (n + 1)).2 hn
    exact ⟨n, fun k => ⟨(hbound k).2, milestone_eq_min hsame k⟩⟩

end Road

end RoadTraffic
