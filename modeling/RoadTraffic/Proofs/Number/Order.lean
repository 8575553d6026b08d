import Mathlib
import RoadTraffic.Number.Binary32

/-!
# The order of singles

A single is read here as a sign and a *magnitude*, the 31 bits below the sign
bit.  The magnitudes of the numbers run without a gap from zero to infinity, and
those of the NaNs lie above infinity.  The signed magnitude of a number is its
*rank*:

    rank x = - magnitude x      if the sign bit is set
    rank x =   magnitude x      otherwise

* `isNaN_iff`, `isFinite_iff` place NaN and the finite singles by magnitude;
* `lt_iff`, `le_iff` say that numbers are ordered as their ranks, and that NaN is
  neither below nor above anything.

So a statement on the order of singles becomes one on integers.  The two zeros
have the same rank.
-/

namespace RoadTraffic.Binary32

open Float.Model Float.Model.UnpackedFloat

/-- The bits of a single below its sign bit. -/
def magnitude (x : Float32) : Nat := x.toBits.toNat % 2 ^ 31

/-- The place of a number in the order of all numbers. -/
def rank (x : Float32) : Int := if negative x then -(magnitude x : Int) else magnitude x

/-- The sign bit as a sign. -/
def sign (x : Float32) : Sign := if negative x then .negative else .positive

theorem rank_eq_apply (x : Float32) : rank x = (sign x).apply (magnitude x) := by
  unfold rank sign
  split <;> rfl

/-!
## The fields of a single
-/

theorem exponentField_lt (x : Float32) : exponentField x < 256 := Nat.mod_lt _ (by decide)

theorem fractionField_lt (x : Float32) : fractionField x < 2 ^ 23 := Nat.mod_lt _ (by decide)

/-- A magnitude is an exponent field followed by a fraction field. -/
theorem magnitude_eq (x : Float32) :
    magnitude x = exponentField x * 2 ^ 23 + fractionField x := by
  unfold magnitude exponentField fractionField
  omega

theorem significand_lt (x : Float32) : significand x < 2 ^ 24 := by
  have hf := fractionField_lt x
  unfold significand
  split <;> omega

/-- Only at the least scale may a significand lack its leading bit. -/
theorem scale_eq_zero_or_le_significand (x : Float32) :
    scale x = 0 ∨ 2 ^ 23 ≤ significand x := by
  unfold scale significand
  split <;> omega

/-- A magnitude is also a scale followed by a significand, whose leading bit
carries into the scale. -/
theorem magnitude_eq_scale (x : Float32) :
    magnitude x = scale x * 2 ^ 23 + significand x := by
  rw [magnitude_eq]
  by_cases h : exponentField x = 0
  · simp [scale, significand, h]
  · rw [scale, significand, if_neg h]
    omega

/-!
## Reading a single
-/

private theorem toNat_unpackMantissa (x : Float32) :
    (@unpackMantissa Format.binary32 x.toModel.toBits.toBitVec).toNat =
      fractionField x := by
  change (x.toModel.toBits.toNat >>> 0) % 2 ^ 23 = x.toModel.toBits.toNat % 2 ^ 23
  rw [Nat.shiftRight_zero]

private theorem toNat_unpackExponent (x : Float32) :
    (@unpackExponent Format.binary32 x.toModel.toBits.toBitVec).toNat =
      exponentField x := by
  change (x.toModel.toBits.toNat >>> 23) % 2 ^ 8 = x.toModel.toBits.toNat / 2 ^ 23 % 2 ^ 8
  rw [Nat.shiftRight_eq_div_pow]

private theorem ofBitVec_unpackSign (x : Float32) :
    Sign.ofBitVec (@unpackSign Format.binary32 x.toModel.toBits.toBitVec) =
      sign x := by
  have hlt : x.toModel.toBits.toNat < 2 ^ 32 := x.toModel.toBits.toNat_lt
  have hbit : (@unpackSign Format.binary32 x.toModel.toBits.toBitVec).toNat =
      x.toModel.toBits.toNat / 2 ^ 31 := by
    change (x.toModel.toBits.toNat >>> 31) % 2 ^ 1 = _
    rw [Nat.shiftRight_eq_div_pow]
    omega
  have hclear : @unpackSign Format.binary32 x.toModel.toBits.toBitVec = 0#1 ↔
      x.toModel.toBits.toNat < 2 ^ 31 := by
    rw [← BitVec.toNat_inj, hbit, BitVec.toNat_zero]
    omega
  have hset : negative x = true ↔ 2 ^ 31 ≤ x.toModel.toBits.toNat := decide_eq_true_iff
  simp only [Sign.ofBitVec, sign, hclear, hset]
  split <;> split <;> first | rfl | omega

/-- What a single stands for, by its fields: its value is
`significand * 2 ^ (scale - 149)` when the exponent field is not the greatest. -/
theorem unpack_eq (x : Float32) : x.toModel.unpack =
    if exponentField x = 255 then
      if fractionField x = 0 then .infinity (sign x) else .notANumber
    else if h : significand x = 0 then .zero (sign x)
    else .finite (sign x) (significand x) ((scale x : Int) - 149) (Nat.pos_of_ne_zero h) := by
  have htop : @unpackExponent Format.binary32 x.toModel.toBits.toBitVec = -1#8 ↔
      exponentField x = 255 := by
    rw [← BitVec.toNat_inj, toNat_unpackExponent]
    rfl
  have hbottom : @unpackExponent Format.binary32 x.toModel.toBits.toBitVec = 0#8 ↔
      exponentField x = 0 := by
    rw [← BitVec.toNat_inj, toNat_unpackExponent]
    rfl
  have hfraction : @unpackMantissa Format.binary32 x.toModel.toBits.toBitVec = 0#23 ↔
      fractionField x = 0 := by
    rw [← BitVec.toNat_inj, toNat_unpackMantissa]
    rfl
  simp only [Float32.Model.unpack, UnpackedFloat.unpack]
  rw [ofBitVec_unpackSign]
  simp only [htop, hbottom, hfraction]
  split
  · rfl
  · by_cases hz : exponentField x = 0
    · simp only [hz, significand, scale, toNat_unpackExponent, toNat_unpackMantissa, if_true]
      rfl
    · have hsignificand : significand x = fractionField x + 2 ^ 23 := if_neg hz
      have hmantissa : (1#1 ++ @unpackMantissa Format.binary32
          x.toModel.toBits.toBitVec).toNat = significand x := by
        rw [BitVec.toNat_append, ← Nat.shiftLeft_add_eq_or_of_lt (BitVec.isLt _),
          toNat_unpackMantissa, hsignificand]
        simp [Nat.shiftLeft_eq, Nat.add_comm]
      have hexponent : (exponentField x : Int) - (Format.binary32.exponentBias + (23 : Nat)) =
          (scale x : Int) - 149 := by
        have hbias : (Format.binary32.exponentBias : Int) + (23 : Nat) = 150 := by decide
        rw [hbias]
        unfold scale
        omega
      have hpos : significand x ≠ 0 := by omega
      simp only [if_neg hz, dif_neg hpos, hmantissa, toNat_unpackExponent, hexponent]

/-- The magnitudes of the NaNs lie above infinity. -/
theorem isNaN_iff (x : Float32) : x.isNaN = true ↔ infinityBits < magnitude x := by
  have hmagnitude := magnitude_eq x
  have he := exponentField_lt x
  have hf := fractionField_lt x
  have hfields : x.isNaN = true ↔ exponentField x = 255 ∧ fractionField x ≠ 0 := by
    change x.toModel.unpack.isNaN = true ↔ _
    rw [unpack_eq]
    split
    · split <;> simp_all [UnpackedFloat.isNaN]
    · split <;> simp_all [UnpackedFloat.isNaN]
  rw [hfields, infinityBits]
  omega

/-- The magnitudes of the finite singles lie below infinity. -/
theorem isFinite_iff (x : Float32) : x.isFinite = true ↔ magnitude x < infinityBits := by
  have hmagnitude := magnitude_eq x
  have he := exponentField_lt x
  have hf := fractionField_lt x
  have hfields : x.isFinite = true ↔ exponentField x ≠ 255 := by
    change x.toModel.unpack.isFinite = true ↔ _
    rw [unpack_eq]
    split
    · split <;> simp_all [UnpackedFloat.isFinite]
    · split <;> simp_all [UnpackedFloat.isFinite]
  rw [hfields, infinityBits]
  omega

/-- A finite single is not NaN. -/
theorem isNaN_of_isFinite {x : Float32} (h : x.isFinite = true) : x.isNaN = false := by
  rw [← Bool.not_eq_true, isNaN_iff]
  have hlt := (isFinite_iff x).mp h
  omega

/-- A number is an infinity, a zero, or neither. -/
theorem unpack_cases {x : Float32} (h : x.isNaN = false) :
    (x.toModel.unpack = .infinity (sign x) ∧ magnitude x = infinityBits) ∨
    (x.toModel.unpack = .zero (sign x) ∧ magnitude x = 0) ∨
    ∃ hpos, x.toModel.unpack = .finite (sign x) (significand x) ((scale x : Int) - 149) hpos ∧
      0 < magnitude x ∧ magnitude x < infinityBits := by
  have hle : ¬ infinityBits < magnitude x := mt (isNaN_iff x).mpr (ne_true_of_eq_false h)
  have hlt := exponentField_lt x
  have hmagnitude := magnitude_eq x
  have hscaled := magnitude_eq_scale x
  have hscale := scale_eq_zero_or_le_significand x
  rw [unpack_eq]
  unfold infinityBits at *
  by_cases he : exponentField x = 255
  · have hf : fractionField x = 0 := by omega
    exact Or.inl ⟨by rw [if_pos he, if_pos hf], by omega⟩
  · by_cases hs : significand x = 0
    · exact Or.inr (Or.inl ⟨by rw [if_neg he, dif_pos hs], by omega⟩)
    · have hf := fractionField_lt x
      exact Or.inr (Or.inr ⟨Nat.pos_of_ne_zero hs, by rw [if_neg he, dif_neg hs],
        by omega, by omega⟩)

/-!
## Comparing
-/

/-- Magnitudes are ordered by their scales, and then by their significands. -/
theorem compare_scale_significand (x y : Float32) :
    (compare ((scale x : Int) - 149) (scale y - 149)).then
      (compare (significand x) (significand y)) = compare (magnitude x) (magnitude y) := by
  have hx := scale_eq_zero_or_le_significand x
  have hy := scale_eq_zero_or_le_significand y
  have hlx := significand_lt x
  have hly := significand_lt y
  have hmx := magnitude_eq_scale x
  have hmy := magnitude_eq_scale y
  rcases Nat.lt_trichotomy (scale x) (scale y) with h | h | h
  · have hlt : magnitude x < magnitude y := by omega
    rw [Int.compare_eq_lt.mpr (by omega), Nat.compare_eq_lt.mpr hlt]
    rfl
  · rw [h, Int.compare_eq_eq.mpr rfl, hmx, hmy, h, Nat.compare_eq_ite_lt, Nat.compare_eq_ite_lt]
    simp only [Ordering.then, Nat.add_lt_add_iff_left]
  · have hlt : magnitude y < magnitude x := by omega
    rw [Int.compare_eq_gt.mpr (by omega), Nat.compare_eq_gt.mpr hlt]
    rfl

private theorem compare_natCast (m n : Nat) : compare (m : Int) n = compare m n := by
  rw [Int.compare_eq_ite_lt, Nat.compare_eq_ite_lt]
  simp only [Int.ofNat_lt]

private theorem compare_neg_natCast (m n : Nat) :
    compare (-(m : Int)) (-n) = (compare m n).swap := by
  rw [← Nat.compare_swap, Ordering.swap_swap, Int.compare_eq_ite_lt, Nat.compare_eq_ite_lt]
  simp only [Int.neg_lt_neg_iff, Int.ofNat_lt]

/-- Numbers compare as their ranks. -/
theorem compare_unpack {x y : Float32} (hx : x.isNaN = false) (hy : y.isNaN = false) :
    x.toModel.unpack.compare y.toModel.unpack = some (compare (rank x) (rank y)) := by
  have hinfinity : 0 < infinityBits := by decide
  have hnat := compare_natCast (magnitude x) (magnitude y)
  have hneg := compare_neg_natCast (magnitude x) (magnitude y)
  rw [← compare_scale_significand x y] at hnat hneg
  rw [rank_eq_apply, rank_eq_apply]
  rcases unpack_cases hx with ⟨hux, hmx⟩ | ⟨hux, hmx⟩ | ⟨_, hux, hpx, hfx⟩ <;>
  rcases unpack_cases hy with ⟨huy, hmy⟩ | ⟨huy, hmy⟩ | ⟨_, huy, hpy, hfy⟩ <;>
  rw [hux, huy] <;> cases sign x <;> cases sign y <;>
  simp only [UnpackedFloat.compare, Sign.apply] <;> congr 1 <;> symm <;>
  first
    | exact Int.compare_eq_lt.mpr (by omega)
    | exact Int.compare_eq_gt.mpr (by omega)
    | exact Int.compare_eq_eq.mpr (by omega)
    | exact hnat
    | exact hneg

/-- Every NaN is read alike. -/
theorem unpack_of_isNaN {x : Float32} (h : x.isNaN = true) : x.toModel.unpack = .notANumber := by
  change x.toModel.unpack.isNaN = true at h
  cases hu : x.toModel.unpack <;> simp_all [UnpackedFloat.isNaN]

private theorem compare_unpack_of_isNaN {x y : Float32}
    (h : x.isNaN = true ∨ y.isNaN = true) :
    x.toModel.unpack.compare y.toModel.unpack = none := by
  rcases h with h | h
  · rw [unpack_of_isNaN h]
    rfl
  · rw [unpack_of_isNaN h]
    cases x.toModel.unpack <;> rfl

/-- One single is below another if both are numbers and the ranks are so
ordered. -/
theorem lt_iff {x y : Float32} :
    x < y ↔ x.isNaN = false ∧ y.isNaN = false ∧ rank x < rank y := by
  have hmodel : x < y ↔ (x.toModel.unpack.compare y.toModel.unpack == some .lt) = true :=
    decide_eq_true_iff
  rw [hmodel]
  by_cases hx : x.isNaN = true
  · rw [compare_unpack_of_isNaN (Or.inl hx), hx]
    exact ⟨nofun, nofun⟩
  · by_cases hy : y.isNaN = true
    · rw [compare_unpack_of_isNaN (Or.inr hy), hy]
      exact ⟨nofun, nofun⟩
    · rw [Bool.not_eq_true] at hx hy
      rw [compare_unpack hx hy, hx, hy]
      simp only [beq_iff_eq, Option.some.injEq, Int.compare_eq_lt, true_and]

/-- One single is at most another if both are numbers and the ranks are so
ordered. -/
theorem le_iff {x y : Float32} :
    x ≤ y ↔ x.isNaN = false ∧ y.isNaN = false ∧ rank x ≤ rank y := by
  have hmodel : x ≤ y ↔ (x.toModel.unpack.compare y.toModel.unpack).any (·.isLE) = true :=
    decide_eq_true_iff
  rw [hmodel]
  by_cases hx : x.isNaN = true
  · rw [compare_unpack_of_isNaN (Or.inl hx), hx]
    exact ⟨nofun, nofun⟩
  · by_cases hy : y.isNaN = true
    · rw [compare_unpack_of_isNaN (Or.inr hy), hy]
      exact ⟨nofun, nofun⟩
    · rw [Bool.not_eq_true] at hx hy
      rw [compare_unpack hx hy, hx, hy]
      simp only [Option.any_some, Int.isLE_compare, true_and]

end RoadTraffic.Binary32
