import RoadTraffic.Proofs.Number.Magnitudes
import RoadTraffic.Number.Trigonometry

/-!
# Bounds of sines, cosines and angles

How great a value of the series can become is plain from their terms, however many are
taken and wherever they are cut off: an alternating sum stays below its first term, and a
rising one below the number of its terms.  So

* `magnitude_sin_le`, `magnitude_cos_le`: sines and cosines of finite angles are at most
  two (the series of a sine is not summed exactly, and a right angle is a bound that needs
  no analysis);
* `isFinite_atan2`: the angle of a vector is finite, also where a leg is infinite.
-/

namespace RoadTraffic

open Binary32 Float.Model Float.Model.UnpackedFloat

/-!
## Rounded fractions
-/

namespace Binary32

/-- The bits of a number are kept as they are. -/
theorem magnitude_ofBits {bits : UInt32} (h : bits.toNat % 2 ^ 31 ≤ infinityBits) :
    magnitude (.ofBits bits) = bits.toNat % 2 ^ 31 := by
  have hexponent : (@unpackExponent Format.binary32 bits.toBitVec).toNat =
      (bits.toNat >>> 23) % 2 ^ 8 := rfl
  have hfraction : (@unpackMantissa Format.binary32 bits.toBitVec).toNat =
      (bits.toNat >>> 0) % 2 ^ 23 := rfl
  have hvalid : Format.binary32.Valid bits.toBitVec := by
    refine ⟨fun htop hrest => absurd ?_ hrest⟩
    rw [htop, Nat.shiftRight_eq_div_pow] at hexponent
    rw [← BitVec.toNat_inj, hfraction, Nat.shiftRight_zero]
    change 255 = _ at hexponent
    change _ = 0
    unfold infinityBits at h
    omega
  have hnum : (Float32.ofModel ⟨bits, hvalid⟩).isNaN = false := isNaN_of_magnitude_le h
  exact (single_unpack hnum).1

theorem magnitude_ofSteps (isNegative : Bool) (num den : Nat) :
    magnitude (ofSteps isNegative num den) = magnitudeBits num den := by
  have hle : magnitudeBits num den ≤ infinityBits := by
    rw [magnitudeBits_eq]
    exact Nat.min_le_right ..
  have hbits : (UInt32.ofNat (magnitudeBits num den + if isNegative then 2 ^ 31 else 0)).toNat %
      2 ^ 31 = magnitudeBits num den := by
    rw [UInt32.toNat_ofNat']
    unfold infinityBits at hle
    split <;> omega
  rw [ofSteps, magnitude_ofBits (hbits.symm ▸ hle), hbits]

end Binary32

namespace Trigonometry

/-- Double precision keeps the powers of two, so it keeps below them. -/
theorem toDouble_le {value j : Nat} (h : value ≤ 2 ^ j) : toDouble value ≤ 2 ^ j := by
  rw [toDouble, Nat.shiftLeft_eq, Nat.shiftLeft_eq, Nat.one_mul]
  by_cases hexact : value.log2 - 52 = 0
  · rw [hexact, Nat.pow_zero, roundHalfEven_one, Nat.mul_one]
    exact h
  · have hne : value ≠ 0 := by
      rintro rfl
      simp at hexact
    have hlog : value.log2 ≤ j :=
      (Nat.pow_le_pow_iff_right (by decide)).mp (Nat.le_trans (Nat.log2_self_le hne) h)
    obtain ⟨i, rfl⟩ : ∃ i, j = i + (value.log2 - 52) := ⟨j - (value.log2 - 52), by omega⟩
    have hround := roundHalfEven_mono (2 ^ (value.log2 - 52)) h
    rw [Nat.pow_add, roundHalfEven_mul_self _ (Nat.two_pow_pos _)] at hround
    rw [Nat.pow_add]
    exact Nat.mul_le_mul_right _ hround

theorem magnitude_toSingle_le (isNegative : Bool) {value k : Nat} (h : value ≤ 2 ^ k * one) :
    magnitude (toSingle isNegative value) ≤
      magnitudeBits (2 ^ k * one) (1 <<< (places - 149)) := by
  rw [one, Nat.one_shiftLeft, ← Nat.pow_add] at h ⊢
  rw [toSingle, magnitude_ofSteps]
  exact magnitudeBits_mono_of_pos (by decide) (toDouble_le h)

/-!
## Products of fixed-point numbers
-/

variable {a b z num den : Nat}

theorem product_comm (a b : Nat) : product a b = product b a := by
  rw [product, product, Nat.mul_comm]

/-- A factor of at most one. -/
theorem product_le_left (h : b ≤ one) : product a b ≤ a := by
  rw [product, Nat.shiftRight_eq_div_pow]
  refine Nat.div_le_of_le_mul ?_
  rw [one, Nat.one_shiftLeft] at h
  rw [Nat.mul_comm]
  exact Nat.mul_le_mul_right a h

/-!
## Sines and cosines
-/

theorem alternating_le (z terms k : Nat) : alternating z terms k ≤ one := by
  cases terms with
  | zero => exact Nat.le_refl _
  | succ terms => exact Nat.sub_le ..

theorem sineOf_le (angle : Nat) : sineOf angle ≤ angle := product_le_left (alternating_le ..)

theorem rightAngle_le : rightAngle ≤ 2 * one := by decide

theorem rest_ofSingle_le (x : Float32) : (Turn.ofSingle x).rest ≤ rightAngle := by
  have hpos : 0 < rightAngle320 := by decide
  rw [Turn.ofSingle, rightAngle, Nat.shiftRight_eq_div_pow, Nat.shiftRight_eq_div_pow]
  exact Nat.div_le_div_right (Nat.le_of_lt (Nat.mod_lt _ hpos))

theorem sineOf_rest_le (x : Float32) : sineOf (Turn.ofSingle x).rest ≤ 2 * one :=
  Nat.le_trans (sineOf_le _) (Nat.le_trans (rest_ofSingle_le x) rightAngle_le)

theorem cosineOf_le (angle : Nat) : cosineOf angle ≤ 2 * one :=
  Nat.le_trans (alternating_le ..) (Nat.le_mul_of_pos_left one Nat.two_pos)

theorem magnitude_toSingle_le_two (isNegative : Bool) {value : Nat} (h : value ≤ 2 * one) :
    magnitude (toSingle isNegative value) ≤ magnitude 2 := by
  have htwo : magnitudeBits (2 ^ 1 * one) (1 <<< (places - 149)) = magnitude 2 := by
    decide +kernel
  rw [← Nat.pow_one 2] at h
  exact htwo ▸ magnitude_toSingle_le isNegative h

theorem magnitude_sin_le {x : Float32} (h : x.isFinite = true) :
    magnitude (sin x) ≤ magnitude 2 := by
  rw [sin, if_pos h]
  apply magnitude_toSingle_le_two
  split
  · exact sineOf_rest_le x
  · exact cosineOf_le _

theorem magnitude_cos_le {x : Float32} (h : x.isFinite = true) :
    magnitude (cos x) ≤ magnitude 2 := by
  rw [cos, if_pos h]
  apply magnitude_toSingle_le_two
  split
  · exact cosineOf_le _
  · exact sineOf_rest_le x

/-!
## The angle of a vector
-/

/-- With `z` at most one, every term adds at most one. -/
theorem rising_le (hz : z ≤ one) (terms k : Nat) : rising z terms k ≤ (terms + 1) * one := by
  induction terms generalizing k with
  | zero => exact Nat.le_of_eq (Nat.one_mul _).symm
  | succ terms ih =>
      have hproduct : product z (rising z terms (k + 1)) ≤ (terms + 1) * one := by
        rw [product_comm]
        exact Nat.le_trans (product_le_left hz) (ih (k + 1))
      have hterm : product z (rising z terms (k + 1)) * (2 * k) / (2 * k + 1) ≤
          product z (rising z terms (k + 1)) :=
        Nat.div_le_of_le_mul (by
          rw [Nat.mul_comm (2 * k + 1)]
          exact Nat.mul_le_mul_left _ (Nat.le_succ _))
      rw [rising, Nat.add_mul (terms + 1), Nat.one_mul]
      omega

/-- A fraction of at most one, in fixed point. -/
theorem shiftLeft_div_le (h : num ≤ den) : num <<< places / den ≤ one := by
  refine Nat.div_le_of_le_mul ?_
  rw [Nat.shiftLeft_eq, one, Nat.one_shiftLeft]
  exact Nat.mul_le_mul_right _ h

theorem angleBySeries_le (terms num den : Nat) :
    angleBySeries terms num den ≤ (terms + 1) * one := by
  have hsquare : num * num ≤ num * num + den * den := Nat.le_add_right ..
  have hproduct : num * den ≤ num * num + den * den := by
    rcases Nat.le_total num den with hle | hle
    · exact Nat.le_trans (Nat.mul_le_mul_right den hle) (Nat.le_add_left ..)
    · exact Nat.le_trans (Nat.mul_le_mul_left num hle) (Nat.le_add_right ..)
  unfold angleBySeries
  rw [product_comm]
  exact Nat.le_trans (product_le_left (shiftLeft_div_le hproduct))
    (rising_le (shiftLeft_div_le hsquare) terms 1)

theorem slightAngle_le (num den : Nat) : slightAngle num den ≤ 72 * one := by
  have hquarter : quarterAngle ≤ 41 * one := angleBySeries_le 40 1 4
  unfold slightAngle
  split
  · have hle := angleBySeries_le 30 num den
    omega
  · split
    · have hle := angleBySeries_le 30 (4 * num - den) (4 * den + num)
      omega
    · omega

theorem steepness_le (rise run : Nat) : steepness rise run ≤ 72 * one := by
  have hright := rightAngle_le
  have hflat : ∀ num den : Nat, flatAngle num den ≤ 72 * one := by
    intro num den
    unfold flatAngle
    split
    · exact slightAngle_le num den
    · omega
  unfold steepness
  split
  · exact Nat.zero_le _
  · split
    · omega
    · split
      · exact hflat rise run
      · omega

/-- **The angle of a vector** is a finite number if both legs are numbers. -/
theorem isFinite_atan2 {y x : Float32} (hy : y.isNaN = false) (hx : x.isNaN = false) :
    (atan2 y x).isFinite = true := by
  have hbound : magnitudeBits (2 ^ 7 * one) (1 <<< (places - 149)) < infinityBits := by
    decide +kernel
  have hright := rightAngle_le
  obtain ⟨angle, hangle, hatan2⟩ : ∃ angle ≤ 72 * one, atan2 y x =
      toSingle (negative y) (if negative x then 2 * rightAngle - angle else angle) := by
    refine ⟨steepness (legs y x).1 (legs y x).2, steepness_le .., ?_⟩
    rw [atan2, hy, hx]
    rfl
  rw [hatan2, isFinite_iff]
  refine Nat.lt_of_le_of_lt (magnitude_toSingle_le _ ?_) hbound
  split <;> omega

end Trigonometry

end RoadTraffic
