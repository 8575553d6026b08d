import RoadTraffic.Proofs.Number.Error

/-!
# Results that do not overflow

A number is finite if one of greater magnitude is.  So all that is needed of an operation is
that its result grows with the magnitudes of its operands:

* `magnitude_add_le`: a sum stays below that of two bounds;
* `magnitude_mul_le`: a product with a number of at most two stays below twice a bound;
* `mul_of_unit`: a product with one or minus one keeps the magnitude;
* `magnitude_half_le`: half of a number is not above it;
* `isFinite_along`: a coordinate that some way in some direction leads to is finite, if
  twice a bound of the way can be added to the coordinate it starts from.
-/

namespace RoadTraffic.Binary32

open Float.Model Float.Model.UnpackedFloat

variable {x y a b : Float32}

theorem isFinite_of_magnitude_le (h : magnitude x ≤ magnitude a) (ha : a.isFinite = true) :
    x.isFinite = true :=
  (isFinite_iff x).mpr (Nat.lt_of_le_of_lt h ((isFinite_iff a).mp ha))

theorem magnitude_le (hx : 0 ≤ x) (h : x ≤ a) : magnitude x ≤ magnitude a := by
  obtain ⟨-, -, hpos⟩ := le_iff.mp hx
  obtain ⟨-, -, hrank⟩ := le_iff.mp h
  rw [rank_zero] at hpos
  rw [magnitude_eq_natAbs_rank, magnitude_eq_natAbs_rank]
  omega

/-!
## Numbers by their steps
-/

theorem natAbs_signedSteps (x : Float32) : (signedSteps x).natAbs = steps x := by
  unfold signedSteps
  cases sign x <;> rw [Sign.apply] <;> omega

theorem signedSteps_eq_steps (h : 0 ≤ x) : signedSteps x = steps x := by
  obtain ⟨-, -, hrank⟩ := le_iff.mp h
  rw [rank_zero, rank_eq_apply] at hrank
  unfold signedSteps
  cases hs : sign x with
  | positive => rfl
  | negative =>
      -- Only the negative zero has its sign bit set and is not below zero.
      rw [hs, Sign.apply] at hrank
      rw [steps_eq_zero (by omega)]
      rfl

theorem value_abs (h : x.isFinite = true) : value x.abs = |value x| := by
  obtain ⟨hm, hs⟩ := magnitude_abs (isNaN_of_isFinite h)
  have hsteps : signedSteps x.abs = |signedSteps x| := by
    rw [signedSteps, hs, steps_eq_of_magnitude_eq hm, ← Int.natCast_natAbs, natAbs_signedSteps]
    rfl
  rw [value, value, abs_div, abs_of_pos stepsPerUnit_pos, hsteps, Int.cast_abs]

theorem steps_eq_mul (x : Float32) : steps x = significand x * 2 ^ scale x := by
  rw [steps, Nat.shiftLeft_eq]

/-- Every number is rounded to itself. -/
theorem magnitudeBits_steps (h : x.isNaN = false) : magnitudeBits (steps x) 1 = magnitude x := by
  have hle : ¬ infinityBits < magnitude x := mt (isNaN_iff x).mpr (ne_true_of_eq_false h)
  rw [magnitudeBits_one, steps_eq_mul,
    roundedMagnitude_mul_two_pow (significand_lt x) (scale_eq_zero_or_le_significand x),
    ← magnitude_eq_scale]
  omega

/-!
## Sums
-/

/-- The sum of two finite numbers is rounded from the sum of their steps. -/
theorem magnitude_add (hx : x.isFinite = true) (hy : y.isFinite = true) :
    magnitude (x + y) = magnitudeBits (signedSteps x + signedSteps y).natAbs 1 := by
  obtain ⟨s, hs⟩ := exists_apply_natAbs (signedSteps x + signedSteps y)
  have hrank := (rank_add hx hy).1
  rw [hs] at hrank
  exact (signedSteps_of_rank_eq hrank).1

/-- **Sums grow with the magnitudes.** -/
theorem magnitude_add_le (ha : a.isFinite = true) (hb : b.isFinite = true) (ha0 : 0 ≤ a)
    (hb0 : 0 ≤ b) (hx : magnitude x ≤ magnitude a) (hy : magnitude y ≤ magnitude b) :
    magnitude (x + y) ≤ magnitude (a + b) := by
  have hfx := isFinite_of_magnitude_le hx ha
  have hfy := isFinite_of_magnitude_le hy hb
  have hsx := steps_le hfx ha hx
  have hsy := steps_le hfy hb hy
  have hnx := natAbs_signedSteps x
  have hny := natAbs_signedSteps y
  rw [magnitude_add hfx hfy, magnitude_add ha hb, signedSteps_eq_steps ha0,
    signedSteps_eq_steps hb0]
  exact magnitudeBits_mono (by omega)

/-!
## Products
-/

theorem log2_div_two_pow (n k : Nat) : (n / 2 ^ k).log2 = n.log2 - k := by
  rw [Nat.log2_eq_log_two, Nat.log2_eq_log_two, Nat.log_div_base_pow]

/-- A significand with an exponent below that of a step is rounded as a quotient of steps. -/
theorem magnitude_single_round (s : Sign) {m k : Nat} (hm : 0 < m)
    (hk : 2 ^ 23 ≤ m ∨ k ≤ 149) :
    magnitude (single (roundWithAccuracy Format.binary32 s m ((k : Int) - 298) .exact)) =
      magnitudeBits (m * 2 ^ k) stepsPerUnit := by
  have hne : m ≠ 0 := Nat.ne_of_gt hm
  obtain ⟨t, ht⟩ : ∃ t : Int, t = max ((m.log2 : Int) + ((k : Int) - 298) - 23) (-149) := ⟨_, rfl⟩
  have hfull : 2 ^ 23 ≤ m → 23 ≤ m.log2 := fun hle => (Nat.le_log2 hne).mpr hle
  have hdropped : (m * 2 ^ k / stepsPerUnit).log2 - 23 = (t + 149).toNat := by
    rw [stepsPerUnit, log2_div_two_pow, log2_mul_two_pow hne]
    omega
  have hle : (k : Int) - 298 ≤ t := by
    rcases hk with hlarge | hsmall
    · have hlog := hfull hlarge
      omega
    · omega
  have hden : stepsPerUnit * 2 ^ (t + 149).toNat = 2 ^ (t - (k - 298)).toNat * 2 ^ k := by
    rw [stepsPerUnit, ← Nat.pow_add, ← Nat.pow_add]
    congr 1
    omega
  have hpos : 0 < stepsPerUnit := Nat.two_pow_pos 149
  have hup := roundHalfEven_div_le (m * 2 ^ k) hpos
  have hlow := @le_roundHalfEven_div (m * 2 ^ k) _ hpos
  rw [roundWithAccuracy_eq s ht hle, magnitudeBits_eq]
  rw [hdropped, hden, roundHalfEven_mul_right _ _ (Nat.two_pow_pos k)] at hup hlow ⊢
  generalize roundHalfEven m (2 ^ (t - (k - 298)).toNat) = r at hup hlow ⊢
  rcases Nat.eq_zero_or_pos r with rfl | hr
  · -- An exponent above the least one would leave a full significand.
    have ht : t = -149 := by omega
    rw [ht, shiftToTargetExponent_of_lt (by decide) (by decide)]
    exact (single_zero s).1
  · obtain ⟨m', e', hpos', hshifted, hfits, hmagnitude⟩ :=
      @ofShifted_eq s r t hr hup (by omega) (by omega)
    rw [hshifted, (single_finite s hpos' hfits).1, hmagnitude]

/-- The product of two finite numbers is rounded from the product of their steps. -/
theorem magnitude_mul (hx : x.isFinite = true) (hy : y.isFinite = true) :
    magnitude (x * y) = magnitudeBits (steps x * steps y) stepsPerUnit := by
  have hltx := (isFinite_iff x).mp hx
  have hlty := (isFinite_iff y).mp hy
  have hnone : magnitudeBits 0 stepsPerUnit = 0 := by decide +kernel
  change magnitude (single (UnpackedFloat.mul Format.binary32 x.toModel.unpack y.toModel.unpack)) = _
  rcases unpack_cases (isNaN_of_isFinite hx) with ⟨-, hm⟩ | ⟨hux, hmx⟩ | ⟨hposx, hux, -, -⟩
  · omega
  · rw [steps_eq_zero hmx, Nat.zero_mul, hnone]
    rcases unpack_cases (isNaN_of_isFinite hy) with ⟨-, hm⟩ | ⟨huy, -⟩ | ⟨_, huy, -, -⟩
    · omega
    · rw [hux, huy]
      exact (single_zero _).1
    · rw [hux, huy]
      exact (single_zero _).1
  · rcases unpack_cases (isNaN_of_isFinite hy) with ⟨-, hm⟩ | ⟨huy, hmy⟩ | ⟨hposy, huy, -, -⟩
    · omega
    · rw [steps_eq_zero hmy, Nat.mul_zero, hnone, hux, huy]
      exact (single_zero _).1
    · have hexponent : (scale x : Int) - 149 + ((scale y : Int) - 149) =
          ((scale x + scale y : Nat) : Int) - 298 := by omega
      have hsteps : steps x * steps y =
          significand x * significand y * 2 ^ (scale x + scale y) := by
        rw [steps, steps, Nat.shiftLeft_eq, Nat.shiftLeft_eq, Nat.pow_add]
        exact Nat.mul_mul_mul_comm ..
      rw [hux, huy, UnpackedFloat.mul, hexponent, hsteps]
      refine magnitude_single_round _ (Nat.mul_pos hposx hposy) ?_
      rcases scale_eq_zero_or_le_significand x with hzerox | hfull
      · rcases scale_eq_zero_or_le_significand y with hzeroy | hfull
        · exact Or.inr (by omega)
        · exact Or.inl (Nat.le_trans hfull (Nat.le_mul_of_pos_left _ hposx))
      · exact Or.inl (Nat.le_trans hfull (Nat.le_mul_of_pos_right _ hposy))

/-- **Products with one or minus one** have the magnitude of the other factor. -/
theorem mul_of_unit (hx : magnitude x = magnitude 1) (hy : y.isNaN = false) :
    magnitude (x * y) = magnitude y ∧ sign (x * y) = sign x * sign y := by
  have hone : magnitude 1 = 127 * 2 ^ 23 := by decide +kernel
  have hfx : x.isFinite = true := by
    rw [isFinite_iff, hx, hone]
    decide
  rcases isFinite_or_infinity hy with hfy | ⟨huy, hry⟩
  · have hunit : steps x = stepsPerUnit := (steps_eq_of_magnitude_eq hx).trans steps_one
    have hproduct := magnitude_mul hfx hfy
    have hcancel := magnitudeBits_mul_right (steps y) 1 (Nat.two_pow_pos 149)
    rw [Nat.one_mul, Nat.mul_comm] at hcancel
    rw [hunit, stepsPerUnit, hcancel, magnitudeBits_steps hy] at hproduct
    exact ⟨hproduct, (Signed.mul ⟨isNaN_of_isFinite hfx, rfl⟩ ⟨hy, rfl⟩ hfx hfy).sign⟩
  · have hmagnitude : magnitude y = infinityBits := by
      rw [magnitude_eq_natAbs_rank, hry]
      cases sign y <;> decide
    change magnitude (single (UnpackedFloat.mul Format.binary32 x.toModel.unpack y.toModel.unpack)) =
      _ ∧ sign (single (UnpackedFloat.mul Format.binary32 x.toModel.unpack y.toModel.unpack)) = _
    rcases unpack_cases (isNaN_of_isFinite hfx) with ⟨-, hm⟩ | ⟨-, hm⟩ | ⟨_, hux, -, -⟩
    · rw [hx, hone] at hm
      exact absurd hm (by decide)
    · rw [hx, hone] at hm
      exact absurd hm (by decide)
    · rw [hux, huy, hmagnitude]
      exact single_infinity _

theorem rank_mul_of_unit (hx : magnitude x = magnitude 1) (hy : y.isNaN = false) :
    rank (x * y) = (sign x).apply (rank y) ∧ (x * y).isNaN = false := by
  obtain ⟨hmagnitude, hsign⟩ := mul_of_unit hx hy
  refine ⟨?_, isNaN_of_magnitude_le ?_⟩
  · rw [rank_eq_apply, rank_eq_apply, hmagnitude, hsign, apply_mul]
  · rw [hmagnitude, magnitude_eq_natAbs_rank]
    exact natAbs_rank_le hy

theorem signedSteps_mul_of_unit (hx : magnitude x = magnitude 1) (hy : y.isNaN = false) :
    signedSteps (x * y) = (sign x).apply (signedSteps y) := by
  obtain ⟨hmagnitude, hsign⟩ := mul_of_unit hx hy
  rw [signedSteps, signedSteps, steps_eq_of_magnitude_eq hmagnitude, hsign, apply_mul]

/-- **Products with a number of at most two.** -/
theorem magnitude_mul_le (ha : a.isFinite = true) (ha0 : 0 ≤ a)
    (hx : magnitude x ≤ magnitude a) (hy : magnitude y ≤ magnitude 2) :
    magnitude (x * y) ≤ magnitude (a + a) := by
  have htwo : (2 : Float32).isFinite = true := by decide +kernel
  have hsteps : steps 2 = 2 * stepsPerUnit := by decide +kernel
  have hfx := isFinite_of_magnitude_le hx ha
  have hfy := isFinite_of_magnitude_le hy htwo
  have hpos : 0 < stepsPerUnit := Nat.two_pow_pos 149
  have hle : steps x * steps y ≤ (steps a + steps a) * stepsPerUnit := by
    calc steps x * steps y ≤ steps a * steps 2 :=
          Nat.mul_le_mul (steps_le hfx ha hx) (steps_le hfy htwo hy)
      _ = (steps a + steps a) * stepsPerUnit := by rw [hsteps, ← Nat.mul_assoc, Nat.mul_two]
  have hdouble := magnitudeBits_mul_right (steps a + steps a) 1 hpos
  rw [Nat.one_mul] at hdouble
  rw [magnitude_mul hfx hfy, magnitude_add ha ha, signedSteps_eq_steps ha0]
  exact Nat.le_trans (magnitudeBits_mono_of_pos hpos hle) (Nat.le_of_eq hdouble)

/-!
## Halves
-/

theorem roundToNearestEven_bounds (m : Nat) (accuracy : Accuracy) :
    m ≤ accuracy.roundToNearestEven m ∧ accuracy.roundToNearestEven m ≤ m + 1 := by
  unfold Accuracy.roundToNearestEven
  split <;> omega

/-- A significand that fits is not shifted before it is rounded. -/
theorem roundWithAccuracy_of_fits (s : Sign) {m : Nat} {e : Int} (h : Fits m e)
    (accuracy : Accuracy) :
    roundWithAccuracy Format.binary32 s m e accuracy =
      ofShifted s (shiftToTargetExponent Format.binary32
        (accuracy.roundToNearestEven m) e .exact) := by
  obtain ⟨hlt, hle, -⟩ := h
  have hlog : m.log2 ≤ 23 := by
    by_cases hz : m = 0
    · simp [hz]
    · exact Nat.lt_succ_iff.mp ((Nat.log2_lt hz).mpr hlt)
  have hshift : (max ((m.log2 : Int) + e - 23) (-149) - e).toNat = 0 := by omega
  have hfirst : shiftToTargetExponent Format.binary32 m e accuracy =
      (ExtendedMantissa.ofMantissaAndAccuracy m accuracy, e) := by
    rw [shiftToTargetExponent, targetExponent_eq, shiftToExponent, hshift]
    exact Prod.ext rfl (Int.add_zero e)
  have hread : (ExtendedMantissa.ofMantissaAndAccuracy m accuracy).roundedMantissa =
      accuracy.roundToNearestEven m := by
    cases accuracy with
    | exact => rfl
    | inexact half => cases half <;> rfl
  simp only [roundWithAccuracy, hfirst, hread]
  rfl

/-- A significand that fits is rounded up by at most one, whatever was cut off before. -/
theorem magnitude_single_roundWithAccuracy_le (s : Sign) {m : Nat} {e : Int} (h : Fits m e)
    (accuracy : Accuracy) :
    magnitude (single (roundWithAccuracy Format.binary32 s m e accuracy)) ≤
      (e + 149).toNat * 2 ^ 23 + m + 1 := by
  obtain ⟨hlow, hup⟩ := roundToNearestEven_bounds m accuracy
  rw [roundWithAccuracy_of_fits s h]
  obtain ⟨hlt, hle, hfull⟩ := h
  generalize accuracy.roundToNearestEven m = r at hlow hup ⊢
  rcases Nat.eq_zero_or_pos r with rfl | hpos
  · rw [shiftToTargetExponent_of_lt (by decide) hle]
    exact Nat.le_trans (Nat.le_of_eq (single_zero s).1) (Nat.zero_le _)
  · obtain ⟨m', e', hpos', hshifted, hfits, hmagnitude⟩ :=
      ofShifted_eq s hpos (by omega) hle (by omega)
    rw [hshifted, (single_finite s hpos' hfits).1, hmagnitude]
    omega

/-- A significand with a bit more than fits, and that bit clear, is rounded to what fits. -/
theorem magnitude_single_roundWithAccuracy_double_le (s : Sign) {m : Nat} {e : Int}
    (hlarge : 2 ^ 23 ≤ m) (hlt : m < 2 ^ 24) (he : -149 ≤ e) :
    magnitude (single (roundWithAccuracy Format.binary32 s (m * 2) (e - 1) .exact)) ≤
      (e + 149).toNat * 2 ^ 23 + m := by
  have hpos : 0 < m := Nat.lt_of_lt_of_le (by decide) hlarge
  have hlow : 23 ≤ m.log2 := (Nat.le_log2 (Nat.ne_of_gt hpos)).mpr hlarge
  have hup : m.log2 < 24 := (Nat.log2_lt (Nat.ne_of_gt hpos)).mpr hlt
  have hlog : (m * 2).log2 = m.log2 + 1 := log2_mul_two_pow (Nat.ne_of_gt hpos) 1
  have hshift : (e - (e - 1)).toNat = 1 := by omega
  rw [roundWithAccuracy_eq s (t := e) (by omega) (by omega), hshift, Nat.pow_one,
    roundHalfEven_mul_self m (by decide)]
  obtain ⟨m', e', hpos', hshifted, hfits, hmagnitude⟩ :=
    ofShifted_eq s hpos (Nat.le_of_lt hlt) he (Or.inr hlarge)
  rw [hshifted, (single_finite s hpos' hfits).1, hmagnitude]
  exact Nat.min_le_left ..

/-- A quotient by two, with a bit more than fits unless the exponent is the least. -/
theorem divCore_two {m : Nat} {e t : Int} (ht : t = max ((m.log2 : Int) + e - 25) (-149))
    (hm : m.log2 < 24) (he : -149 ≤ e) :
    divCore Format.binary32 m e (2 ^ 23) (-22) =
      (m * 2 ^ (e + 22 - t).toNat / 2 ^ 23, t,
        accuracyOfFraction (m * 2 ^ (e + 22 - t).toNat % 2 ^ 23) (2 ^ 23)) := by
  have htarget : min (e - -22) (Format.binary32.targetExponent
      (totalExponent m e - totalExponent (2 ^ 23) (-22))) = t := by
    simp only [Format.targetExponent, totalExponent, Format.mantissaBits, Format.minExponent,
      Nat.log2_two_pow]
    omega
  rw [divCore, htarget, Nat.shiftLeft_eq, Int.sub_neg]

theorem magnitude_single_half_le (s : Sign) {m : Nat} {e : Int} (hpos : 0 < m) (h : Fits m e) :
    let quotient := divCore Format.binary32 m e (2 ^ 23) (-22)
    magnitude (single (roundWithAccuracy Format.binary32 s quotient.1 quotient.2.1
      quotient.2.2)) ≤ (e + 149).toNat * 2 ^ 23 + m := by
  obtain ⟨hlt, hle, hfull⟩ := h
  have hne : m ≠ 0 := Nat.ne_of_gt hpos
  have hlog : 2 ^ 23 ≤ m → 23 ≤ m.log2 := (Nat.le_log2 hne).mpr
  have hbits : m.log2 < 24 := (Nat.log2_lt hne).mpr hlt
  obtain ⟨t, ht⟩ : ∃ t : Int, t = max ((m.log2 : Int) + e - 25) (-149) := ⟨_, rfl⟩
  simp only [divCore_two ht hbits hle]
  by_cases hleast : e = -149
  · -- The last bit is cut off, and rounding may bring it back.
    have hexponent : t = -149 := by omega
    have hshift : (e + 22 - t).toNat = 22 := by omega
    have hhalf : m * 2 ^ 22 / 2 ^ 23 = m / 2 := by omega
    rw [hshift, hhalf, hexponent]
    have hfits : Fits (m / 2) (-149) := ⟨by omega, Int.le_refl _, Or.inl rfl⟩
    exact Nat.le_trans (magnitude_single_roundWithAccuracy_le s hfits _) (by omega)
  · have hlarge : 2 ^ 23 ≤ m := hfull.resolve_left hleast
    have hlow := hlog hlarge
    by_cases hnext : e = -148
    · have hexponent : t = e - 1 := by omega
      have hshift : (e + 22 - t).toNat = 23 := by omega
      have hsame : m * 2 ^ 23 / 2 ^ 23 = m := by omega
      rw [hshift, hsame, hexponent]
      have hfits : Fits m (e - 1) := ⟨hlt, by omega, Or.inr hlarge⟩
      exact Nat.le_trans (magnitude_single_roundWithAccuracy_le s hfits _) (by omega)
    · have hexponent : t = e - 1 - 1 := by omega
      have hshift : (e + 22 - t).toNat = 24 := by omega
      have hdouble : m * 2 ^ 24 / 2 ^ 23 = m * 2 := by omega
      have hexact : accuracyOfFraction (m * 2 ^ 24 % 2 ^ 23) (2 ^ 23) = .exact :=
        if_pos (by omega)
      rw [hshift, hdouble, hexact, hexponent]
      have hle' : -149 ≤ e - 1 := by omega
      exact Nat.le_trans (magnitude_single_roundWithAccuracy_double_le s hlarge hlt hle') (by omega)

/-- **Half of a number** has no greater magnitude. -/
theorem magnitude_half_le (h : x.isFinite = true) : magnitude (x / 2) ≤ magnitude x := by
  have htwo : (2 : Float32).toModel.unpack = .finite .positive (2 ^ 23) (-22) (by decide) := by
    rw [unpack_eq]
    rfl
  change magnitude (single (UnpackedFloat.div Format.binary32 x.toModel.unpack
    (2 : Float32).toModel.unpack)) ≤ _
  rw [htwo]
  have hlt := (isFinite_iff x).mp h
  rcases unpack_cases (isNaN_of_isFinite h) with ⟨-, hm⟩ | ⟨hu, -⟩ | ⟨hpos, hu, -, -⟩
  · omega
  · rw [hu]
    exact Nat.le_trans (Nat.le_of_eq (single_zero _).1) (Nat.zero_le _)
  · have hhalf := magnitude_single_half_le (sign x / .positive) hpos (fits_significand x)
    have hscale : ((scale x : Int) - 149 + 149).toNat = scale x := by omega
    rw [hscale, ← magnitude_eq_scale] at hhalf
    rw [hu]
    exact hhalf

/-!
## Coordinates and angles
-/

theorem isFinite_of_isFinite_add (hx : 0 ≤ x) (hy : 0 ≤ y) (h : (x + y).isFinite = true) :
    x.isFinite = true ∧ y.isFinite = true := by
  refine ⟨isFinite_of_le hx (le_add hx hy) h, isFinite_of_le hy (le_add hy hx) ?_⟩
  rwa [add_comm]

/-- What is added to a number may take either side of zero. -/
theorem magnitude_add_le_abs (hx : x.isNaN = false) (hb0 : 0 ≤ b)
    (hfinite : (x.abs + b).isFinite = true) (hy : magnitude y ≤ magnitude b) :
    magnitude (x + y) ≤ magnitude (x.abs + b) := by
  have hx0 := abs_nonneg hx
  obtain ⟨hfa, hfb⟩ := isFinite_of_isFinite_add hx0 hb0 hfinite
  exact magnitude_add_le hfa hfb hx0 hb0 (Nat.le_of_eq (magnitude_abs hx).1.symm) hy

/-- **Coordinates.**  A way bounded by `a`, taken in a direction, leads to a finite
coordinate. -/
theorem isFinite_along {way : Float32} (hx : x.isNaN = false) (ha0 : 0 ≤ a)
    (hfinite : (x.abs + (a + a)).isFinite = true) (hway : magnitude way ≤ magnitude a)
    (hy : magnitude y ≤ magnitude 2) : (x + way * y).isFinite = true := by
  have hdouble : 0 ≤ a + a := le_trans ha0 (le_add ha0 ha0)
  obtain ⟨-, hfdouble⟩ := isFinite_of_isFinite_add (abs_nonneg hx) hdouble hfinite
  obtain ⟨hfa, -⟩ := isFinite_of_isFinite_add ha0 ha0 hfdouble
  exact isFinite_of_magnitude_le
    (magnitude_add_le_abs hx hdouble hfinite (magnitude_mul_le hfa ha0 hway hy)) hfinite

end RoadTraffic.Binary32
