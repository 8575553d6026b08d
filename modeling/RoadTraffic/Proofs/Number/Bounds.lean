import RoadTraffic.Proofs.Number.Arithmetic

/-!
# Signs and bounds of rounded results

How far a result of rounded arithmetic can be from zero, and on which side:

* `square_nonneg`, `sqrt_nonneg`: a square and a root of it are numbers that are not
  below zero, so a distance is one;
* `eq_of_rank_eq`: off zero, numbers of one rank are the same number;
* `magnitude_of_isFinite`, `steps_le`: the magnitude of a finite number is that of its
  steps, so both grow together.
-/

namespace RoadTraffic.Binary32

open Float.Model Float.Model.UnpackedFloat

variable {x y : Float32}

/-!
## Squares and roots
-/

theorem isNaN_sub_of_isFinite (hx : x.isFinite = true) (hy : y.isFinite = true) :
    (x - y).isNaN = false := by
  have hny := isNaN_of_isFinite hy
  rw [sub_eq_add hny]
  rcases isFinite_or_infinity (isNaN_neg hny) with hfinite | ⟨hinfinite, -⟩
  · exact (rank_add hx hfinite).2
  · exact (rank_add_infinity hx hinfinite).2

/-- Also the square of an infinity is a number. -/
theorem square_nonneg (h : x.isNaN = false) : 0 ≤ x * x := by
  suffices hsigned : Signed (sign x * sign x) (x * x) by
    have hpositive : sign x * sign x = .positive := by cases sign x <;> rfl
    exact (hpositive ▸ hsigned).le
  change Signed _ (single (UnpackedFloat.mul Format.binary32 x.toModel.unpack x.toModel.unpack))
  rcases unpack_cases h with ⟨hu, -⟩ | ⟨hu, -⟩ | ⟨_, hu, -, -⟩ <;> rw [hu]
  · exact signed_single_infinity _
  · exact signed_single_zero _
  · exact signed_single_roundWithAccuracy _ _ _ _

theorem sqrt_nonneg (h : 0 ≤ x) : 0 ≤ x.sqrt := by
  obtain ⟨-, hnx, hrank⟩ := le_iff.mp h
  rw [rank_zero, rank_eq_apply] at hrank
  change 0 ≤ single (UnpackedFloat.sqrt Format.binary32 x.toModel.unpack)
  rcases unpack_cases hnx with ⟨hu, hm⟩ | ⟨hu, -⟩ | ⟨_, hu, hpos, -⟩ <;> rw [hu]
  · cases hs : sign x with
    | positive => exact (signed_single_infinity _).le
    | negative =>
        have hbits : 0 < infinityBits := by decide
        rw [hs, hm, Sign.apply] at hrank
        omega
  · cases sign x with
    | positive => exact (signed_single_zero _).le
    | negative =>
        -- The root of the negative zero is the negative zero, which is not below zero.
        have hrank := (Reads.zero .negative).rank_single.1
        rw [nearest_zero] at hrank
        refine le_iff.mpr ⟨isNaN_zero, (signed_single_zero .negative).isNaN, ?_⟩
        rw [rank_zero]
        exact Int.le_of_eq hrank.symm
  · cases hs : sign x with
    | positive => exact (signed_single_roundWithAccuracy _ _ _ _).le
    | negative =>
        rw [hs, Sign.apply] at hrank
        omega

theorem abs_nonneg (h : x.isNaN = false) : 0 ≤ x.abs := by
  obtain ⟨hm, hs⟩ := magnitude_abs h
  refine Signed.le ⟨isNaN_of_magnitude_le ?_, hs⟩
  rw [hm, magnitude_eq_natAbs_rank]
  exact natAbs_rank_le h

theorem isNaN_of_isNaN_abs (h : x.abs.isNaN = false) : x.isNaN = false := by
  rw [← Bool.not_eq_true]
  intro hx
  change (single x.toModel.unpack.abs).isNaN = false at h
  rw [unpack_of_isNaN hx] at h
  exact Bool.false_ne_true (h.symm.trans isNaN_single_notANumber)

/-!
## Numbers of one rank
-/

theorem eq_of_toNat_eq (h : x.toBits.toNat = y.toBits.toNat) : x = y := by
  obtain ⟨⟨a, ha⟩⟩ := x
  obtain ⟨⟨b, hb⟩⟩ := y
  have hbits : a = b := UInt32.toNat_inj.mp h
  subst hbits
  rfl

/-- Only the two zeros are different numbers of one rank. -/
theorem eq_of_rank_eq (h : rank x = rank y) (hne : rank x ≠ 0) : x = y := by
  have hx : x.toBits.toNat < 2 ^ 32 := x.toBits.toNat_lt
  have hy : y.toBits.toNat < 2 ^ 32 := y.toBits.toNat_lt
  have hbits : ∀ z : Float32, negative z = true ↔ 2 ^ 31 ≤ z.toBits.toNat := fun z =>
    decide_eq_true_iff
  apply eq_of_toNat_eq
  unfold rank magnitude at h hne
  simp only [hbits] at h hne
  split at h <;> split at h <;> omega

/-!
## Magnitudes and steps
-/

/-- What is nearest to a number of steps is on the same side of zero. -/
theorem signedSteps_of_rank_eq {s : Sign} {n : Nat} (h : rank x = nearest (s.apply n)) :
    magnitude x = magnitudeBits n 1 ∧ signedSteps x = s.apply (steps x) := by
  have hnearest : nearest (s.apply n) = s.apply (magnitudeBits n 1) := by
    rcases Nat.eq_zero_or_pos n with rfl | hpos
    · have hbits : magnitudeBits 0 1 = 0 := by decide
      cases s <;> rw [hbits] <;> exact nearest_zero
    · exact nearest_apply s hpos
  rw [hnearest, rank_eq_apply] at h
  have hmagnitude : magnitude x = magnitudeBits n 1 := by
    cases hs : sign x <;> cases s <;> rw [hs, Sign.apply, Sign.apply] at h <;> omega
  refine ⟨hmagnitude, ?_⟩
  rw [signedSteps]
  by_cases hzero : magnitude x = 0
  · rw [steps_eq_zero hzero]
    cases sign x <;> cases s <;> rfl
  · have hsame : sign x = s := by
      cases hs : sign x <;> cases s <;> rw [hs, Sign.apply, Sign.apply] at h <;>
        first | rfl | omega
    rw [hsame]

theorem magnitude_of_isFinite (h : x.isFinite = true) :
    magnitude x = magnitudeBits (steps x) 1 :=
  (signedSteps_of_rank_eq (nearest_signedSteps h).symm).1

/-- Magnitudes are ordered as their steps. -/
theorem steps_le (hx : x.isFinite = true) (hy : y.isFinite = true)
    (h : magnitude x ≤ magnitude y) : steps x ≤ steps y := by
  by_contra hlt
  have hback := magnitudeBits_mono (Nat.le_of_lt (Nat.not_le.mp hlt))
  rw [← magnitude_of_isFinite hx, ← magnitude_of_isFinite hy] at hback
  exact hlt (Nat.le_of_eq (steps_eq_of_magnitude_eq (Nat.le_antisymm h hback)))

end RoadTraffic.Binary32
