import RoadTraffic.Proofs.Number.Order

/-!
# Rounding to singles

Every finite single is a whole number of steps of `2 ^ (-149)`, and so is every
exact sum and difference of two of them.  This file says what becomes of such a
number of steps when it is rounded and stored:

    steps  ->  nearest steps  =  the rank of the single it is stored as

* `nearest_mono`: more steps never give a lesser rank;
* `Reads.rank_single`: a number that is a single already is stored as itself;
* `Reads.add`: the sum of two finite numbers is stored as the nearest of the sum
  of their steps.

The significand is cut to 24 bits by shifting out the bits below, with the two
bits kept that decide the rounding (`shiftRight_exact`).  Rounding up may carry
into a twenty-fifth bit; then the significand is shifted once more, and nothing is
lost (`shiftToTargetExponent_carry`).
-/

namespace RoadTraffic

/-!
## Rounding a quotient
-/

theorem roundHalfEven_eq (num den : Nat) : roundHalfEven num den =
    if 2 * (num % den) > den ∨ (2 * (num % den) = den ∧ num / den % 2 = 1) then num / den + 1
    else num / den := rfl

/-- A common factor of numerator and denominator does not matter. -/
theorem roundHalfEven_mul_right (num den : Nat) {c : Nat} (hc : 0 < c) :
    roundHalfEven (num * c) (den * c) = roundHalfEven num den := by
  rw [roundHalfEven_eq, roundHalfEven_eq, Nat.mul_div_mul_right _ _ hc, Nat.mul_mod_mul_right,
    ← Nat.mul_assoc]
  have hgt : 2 * (num % den) * c > den * c ↔ 2 * (num % den) > den := Nat.mul_lt_mul_right hc
  have heq : 2 * (num % den) * c = den * c ↔ 2 * (num % den) = den :=
    Nat.mul_left_inj (Nat.ne_of_gt hc)
  simp only [hgt, heq]

theorem roundHalfEven_one (n : Nat) : roundHalfEven n 1 = n := by
  simp [roundHalfEven_eq, Nat.mod_one]

/-- A whole number stays as it is. -/
theorem roundHalfEven_mul_self (n : Nat) {den : Nat} (h : 0 < den) :
    roundHalfEven (n * den) den = n := by
  have hcancel := roundHalfEven_mul_right n 1 h
  rwa [Nat.one_mul, roundHalfEven_one] at hcancel

/-- Greater quotients are not rounded to lesser numbers. -/
theorem roundHalfEven_mono {a b : Nat} (den : Nat) (h : a ≤ b) :
    roundHalfEven a den ≤ roundHalfEven b den := by
  rw [roundHalfEven_eq, roundHalfEven_eq]
  have hdiv : a / den ≤ b / den := Nat.div_le_div_right h
  rcases Nat.lt_or_eq_of_le hdiv with hlt | heq
  · split <;> split <;> omega
  · have ha := Nat.div_add_mod a den
    have hb := Nat.div_add_mod b den
    rw [heq] at ha ⊢
    have hmod : a % den ≤ b % den := by omega
    split <;> split <;> omega

namespace Binary32

open Float.Model Float.Model.UnpackedFloat

/-!
## Cutting off bits
-/

/-- After `k` bits are shifted out of an exact significand, the round bit and the
sticky bit together say how the rest compares with a half. -/
theorem shiftRight_exact (m k : Nat) :
    (ExtendedMantissa.ofMantissaAndAccuracy m .exact >>> k) =
      ⟨m / 2 ^ k, decide (2 ^ k ≤ 2 * (m % 2 ^ k)),
        decide (2 * (m % 2 ^ k) ≠ 0 ∧ 2 * (m % 2 ^ k) ≠ 2 ^ k)⟩ := by
  induction k with
  | zero =>
      simp [Nat.mod_one]
      rfl
  | succ k ih =>
      have hsucc : ∀ em : ExtendedMantissa, em >>> (k + 1) = (em >>> k).shiftRightOne :=
        fun _ => rfl
      have hdiv : m / 2 ^ (k + 1) = m / 2 ^ k / 2 := by rw [Nat.pow_succ, Nat.div_div_eq_div_mul]
      have hmod : m % 2 ^ (k + 1) = m % 2 ^ k + 2 ^ k * (m / 2 ^ k % 2) := by
        rw [Nat.pow_succ, Nat.mod_mul]
      have hpow : 2 ^ (k + 1) = 2 ^ k * 2 := Nat.pow_succ ..
      have hlt : m % 2 ^ k < 2 ^ k := Nat.mod_lt _ (Nat.two_pow_pos k)
      rw [hsucc, ih, ExtendedMantissa.shiftRightOne, hdiv, hmod, hpow]
      rcases Nat.mod_two_eq_zero_or_one (m / 2 ^ k) with hbit | hbit
      · simp only [hbit, Nat.mul_zero, Nat.add_zero, ExtendedMantissa.mk.injEq, true_and]
        grind
      · simp only [hbit, Nat.mul_one, ExtendedMantissa.mk.injEq, true_and]
        grind

/-- Shifting out bits and rounding by them is one rounded division. -/
theorem roundedMantissa_shiftRight (m k : Nat) :
    (ExtendedMantissa.ofMantissaAndAccuracy m .exact >>> k).roundedMantissa =
      roundHalfEven m (2 ^ k) := by
  have hpos : 0 < 2 ^ k := Nat.two_pow_pos k
  rw [shiftRight_exact, roundHalfEven_eq]
  generalize m / 2 ^ k = q
  generalize m % 2 ^ k = r
  generalize 2 ^ k = unit at hpos ⊢
  unfold ExtendedMantissa.roundedMantissa ExtendedMantissa.accuracy Accuracy.roundToNearestEven
  rcases Nat.lt_trichotomy (2 * r) unit with hlt | heq | hgt
  · rw [if_neg (by omega), decide_eq_false (by omega)]
    cases decide (2 * r ≠ 0 ∧ 2 * r ≠ unit) <;> rfl
  · rw [decide_eq_true (Nat.le_of_eq heq.symm), decide_eq_false (by omega)]
    simp only
    split <;> omega
  · rw [if_pos (Or.inl hgt), decide_eq_true (Nat.le_of_lt hgt), decide_eq_true (by omega)]

/-!
## Magnitudes
-/

/-- The magnitude that a number of steps is rounded to, if there were no
infinity. -/
def roundedMagnitude (steps : Nat) : Nat :=
  (steps.log2 - 23) * 2 ^ 23 + roundHalfEven steps (2 ^ (steps.log2 - 23))

theorem magnitudeBits_one (steps : Nat) :
    magnitudeBits steps 1 = min (roundedMagnitude steps) infinityBits := by
  simp [magnitudeBits, roundedMagnitude, Nat.shiftLeft_eq]

/-- The significand of a rounded quotient has 24 bits, or is the next power of two. -/
theorem roundHalfEven_div_le (num : Nat) {den : Nat} (hden : 0 < den) :
    roundHalfEven num (den * 2 ^ ((num / den).log2 - 23)) ≤ 2 ^ 24 := by
  have hpos : 0 < den * 2 ^ ((num / den).log2 - 23) := Nat.mul_pos hden (Nat.two_pow_pos _)
  have hle : num ≤ 2 ^ 24 * (den * 2 ^ ((num / den).log2 - 23)) := by
    have hlt : num / den < 2 ^ ((num / den).log2 + 1) := Nat.lt_log2_self
    have hpow : 2 ^ ((num / den).log2 + 1) ≤ 2 ^ (24 + ((num / den).log2 - 23)) :=
      Nat.pow_le_pow_right (by decide) (by omega)
    have hquotient : num ≤ 2 ^ (24 + ((num / den).log2 - 23)) * den :=
      Nat.le_of_lt ((Nat.div_lt_iff_lt_mul hden).mp (Nat.lt_of_lt_of_le hlt hpow))
    rwa [Nat.pow_add, Nat.mul_assoc, Nat.mul_comm _ den] at hquotient
  have hround := roundHalfEven_mono (den * 2 ^ ((num / den).log2 - 23)) hle
  rwa [roundHalfEven_mul_self _ hpos] at hround

/-- The significand of a rounded quotient keeps its leading bit. -/
theorem le_roundHalfEven_div {num den : Nat} (hden : 0 < den) (h : 23 ≤ (num / den).log2) :
    2 ^ 23 ≤ roundHalfEven num (den * 2 ^ ((num / den).log2 - 23)) := by
  have hpos : 0 < den * 2 ^ ((num / den).log2 - 23) := Nat.mul_pos hden (Nat.two_pow_pos _)
  have hne : num / den ≠ 0 := by
    intro hzero
    rw [hzero] at h
    simp at h
  have hle : 2 ^ 23 * (den * 2 ^ ((num / den).log2 - 23)) ≤ num := by
    have hquotient : 2 ^ (23 + ((num / den).log2 - 23)) * den ≤ num := by
      rw [Nat.add_sub_cancel' h]
      exact (Nat.le_div_iff_mul_le hden).mp (Nat.log2_self_le hne)
    rwa [Nat.pow_add, Nat.mul_assoc, Nat.mul_comm _ den] at hquotient
  have hround := roundHalfEven_mono (den * 2 ^ ((num / den).log2 - 23)) hle
  rwa [roundHalfEven_mul_self _ hpos] at hround

theorem roundHalfEven_le_two_pow (steps : Nat) :
    roundHalfEven steps (2 ^ (steps.log2 - 23)) ≤ 2 ^ 24 := by
  have hround := roundHalfEven_div_le steps Nat.one_pos
  rwa [Nat.div_one, Nat.one_mul] at hround

theorem two_pow_le_roundHalfEven {steps : Nat} (h : 23 ≤ steps.log2) :
    2 ^ 23 ≤ roundHalfEven steps (2 ^ (steps.log2 - 23)) := by
  rw [← Nat.div_one steps] at h
  have hround := le_roundHalfEven_div Nat.one_pos h
  rwa [Nat.div_one, Nat.one_mul] at hround

theorem magnitudeBits_eq (num den : Nat) : magnitudeBits num den =
    min (((num / den).log2 - 23) * 2 ^ 23 +
      roundHalfEven num (den * 2 ^ ((num / den).log2 - 23))) infinityBits := by
  simp [magnitudeBits, Nat.shiftLeft_eq]

/-- Greater quotients are not rounded to lesser magnitudes. -/
theorem magnitudeBits_mono_of_pos {a b den : Nat} (hden : 0 < den) (h : a ≤ b) :
    magnitudeBits a den ≤ magnitudeBits b den := by
  have hlog : (a / den).log2 ≤ (b / den).log2 := by
    by_cases ha : a / den = 0
    · simp [ha]
    · have hdiv : a / den ≤ b / den := Nat.div_le_div_right h
      exact (Nat.le_log2 (Nat.ne_of_gt (Nat.lt_of_lt_of_le (Nat.pos_of_ne_zero ha) hdiv))).mpr
        (Nat.le_trans (Nat.log2_self_le ha) hdiv)
  have ha := roundHalfEven_div_le a hden
  have hb := @le_roundHalfEven_div b den hden
  have hround := roundHalfEven_mono (den * 2 ^ ((b / den).log2 - 23)) h
  rw [magnitudeBits_eq, magnitudeBits_eq]
  refine min_le_min_right _ ?_
  generalize (a / den).log2 = i at *
  generalize (b / den).log2 = j at *
  by_cases hsame : i - 23 = j - 23
  · rw [hsame]
    exact Nat.add_le_add_left hround _
  · -- The greater of two scales outweighs the significands.
    have hfull := hb (by omega)
    have hstep : i - 23 + 1 ≤ j - 23 := by omega
    clear hround hb
    generalize roundHalfEven a (den * 2 ^ (i - 23)) = m at *
    generalize roundHalfEven b (den * 2 ^ (j - 23)) = n at *
    omega

theorem magnitudeBits_mono {a b : Nat} (h : a ≤ b) : magnitudeBits a 1 ≤ magnitudeBits b 1 :=
  magnitudeBits_mono_of_pos Nat.one_pos h

/-- A common factor of numerator and denominator does not matter. -/
theorem magnitudeBits_mul_right (num den : Nat) {c : Nat} (hc : 0 < c) :
    magnitudeBits (num * c) (den * c) = magnitudeBits num den := by
  rw [magnitudeBits_eq, magnitudeBits_eq, Nat.mul_div_mul_right _ _ hc, Nat.mul_assoc,
    Nat.mul_comm c, ← Nat.mul_assoc, roundHalfEven_mul_right _ _ hc]

theorem magnitudeBits_le (steps : Nat) : magnitudeBits steps 1 ≤ infinityBits := by
  rw [magnitudeBits_one]
  exact Nat.min_le_right ..

theorem log2_mul_two_pow {m : Nat} (hm : m ≠ 0) (k : Nat) : (m * 2 ^ k).log2 = m.log2 + k := by
  induction k with
  | zero => simp
  | succ k ih =>
      have hne : m * 2 ^ k ≠ 0 := Nat.mul_ne_zero hm (Nat.ne_of_gt (Nat.two_pow_pos k))
      have hdouble : m * 2 ^ (k + 1) = 2 * (m * 2 ^ k) := by
        rw [Nat.pow_succ, ← Nat.mul_assoc, Nat.mul_comm]
      rw [hdouble, Nat.log2_two_mul hne, ih, Nat.add_assoc]

/-- A significand of 24 bits is not rounded, nor is a shorter one that is not
shifted. -/
theorem roundedMagnitude_mul_two_pow {m k : Nat} (hm : m < 2 ^ 24) (hk : k = 0 ∨ 2 ^ 23 ≤ m) :
    roundedMagnitude (m * 2 ^ k) = k * 2 ^ 23 + m := by
  have hdropped : (m * 2 ^ k).log2 - 23 = k := by
    by_cases hz : m = 0
    · have hk0 : k = 0 := by omega
      simp [hz, hk0]
    · have hlt : m.log2 < 24 := (Nat.log2_lt hz).mpr hm
      have hle : k = 0 ∨ 23 ≤ m.log2 := hk.imp_right (Nat.le_log2 hz).mpr
      rw [log2_mul_two_pow hz]
      omega
  rw [roundedMagnitude, hdropped, roundHalfEven_mul_self _ (Nat.two_pow_pos k)]

/-!
## Rounding a significand with an exponent
-/

/-- A significand and an exponent as a single has them: 24 bits, and the leading
one set unless the exponent is the least. -/
structure Fits (m : Nat) (e : Int) : Prop where
  lt : m < 2 ^ 24
  le : -149 ≤ e
  full : e = -149 ∨ 2 ^ 23 ≤ m

theorem targetExponent_eq (m : Nat) (e : Int) :
    Format.binary32.targetExponent (totalExponent m e) = max ((m.log2 : Int) + e - 23) (-149) := by
  simp only [Format.targetExponent, totalExponent, Format.mantissaBits, Format.minExponent]
  omega

theorem shiftToTargetExponent_eq {m : Nat} {e t : Int}
    (ht : t = max ((m.log2 : Int) + e - 23) (-149)) :
    shiftToTargetExponent Format.binary32 m e .exact =
      (ExtendedMantissa.ofMantissaAndAccuracy m .exact >>> (t - e).toNat, e + (t - e).toNat) := by
  rw [shiftToTargetExponent, targetExponent_eq, ht]
  rfl

/-- A significand of 24 bits is not shifted. -/
theorem shiftToTargetExponent_of_lt {r : Nat} {t : Int} (hr : r < 2 ^ 24) (ht : -149 ≤ t) :
    shiftToTargetExponent Format.binary32 r t .exact = (⟨r, false, false⟩, t) := by
  have hlog : r.log2 ≤ 23 := by
    by_cases hz : r = 0
    · simp [hz]
    · exact Nat.lt_succ_iff.mp ((Nat.log2_lt hz).mpr hr)
  have hshift : (max ((r.log2 : Int) + t - 23) (-149) - t).toNat = 0 := by omega
  rw [shiftToTargetExponent_eq rfl, hshift, shiftRight_exact]
  simp [Nat.mod_one]

/-- A significand that was rounded up to a power of two is shifted once, exactly. -/
theorem shiftToTargetExponent_carry {t : Int} (ht : -149 ≤ t) :
    shiftToTargetExponent Format.binary32 (2 ^ 24) t .exact = (⟨2 ^ 23, false, false⟩, t + 1) := by
  have hshift : (max (((2 ^ 24 : Nat).log2 : Int) + t - 23) (-149) - t).toNat = 1 := by
    rw [Nat.log2_two_pow]
    omega
  rw [shiftToTargetExponent_eq rfl, hshift, shiftRight_exact]
  rfl

/-- The number of a significand that needs no further rounding. -/
def ofShifted (s : Sign) (shifted : ExtendedMantissa × Int) : UnpackedFloat :=
  if h : shifted.1.mantissa = 0 then .zero s
  else .finite s shifted.1.mantissa shifted.2 (Nat.pos_of_ne_zero h)

theorem roundWithAccuracy_eq (s : Sign) {m : Nat} {e t : Int}
    (ht : t = max ((m.log2 : Int) + e - 23) (-149)) (hle : e ≤ t) :
    roundWithAccuracy Format.binary32 s m e .exact =
      ofShifted s (shiftToTargetExponent Format.binary32
        (roundHalfEven m (2 ^ (t - e).toNat)) t .exact) := by
  have hexp : e + ((t - e).toNat : Int) = t := by omega
  simp only [roundWithAccuracy, shiftToTargetExponent_eq ht, hexp, roundedMantissa_shiftRight]
  rfl

/-- A rounded significand fits, after a carry if need be, and keeps its
magnitude. -/
theorem ofShifted_eq (s : Sign) {r : Nat} {t : Int} (hpos : 0 < r) (hr : r ≤ 2 ^ 24)
    (hle : -149 ≤ t) (hfull : t = -149 ∨ 2 ^ 23 ≤ r) :
    ∃ m e h, ofShifted s (shiftToTargetExponent Format.binary32 r t .exact) = .finite s m e h ∧
      Fits m e ∧ (e + 149).toNat * 2 ^ 23 + m = (t + 149).toNat * 2 ^ 23 + r := by
  rcases Nat.lt_or_eq_of_le hr with hlt | rfl
  · rw [shiftToTargetExponent_of_lt hlt hle]
    exact ⟨r, t, hpos, dif_neg (Nat.ne_of_gt hpos), ⟨hlt, hle, hfull⟩, rfl⟩
  · rw [shiftToTargetExponent_carry hle]
    exact ⟨2 ^ 23, t + 1, by decide, rfl, ⟨by decide, by omega, by omega⟩, by omega⟩

/-- **Rounding.**  A positive number of steps is rounded to the magnitude
`roundedMagnitude` of its steps, whatever significand and exponent it comes in. -/
theorem round_eq (s : Sign) {m : Nat} {e : Int} (hm : 0 < m) (he : -149 ≤ e) :
    ∃ m' e' h, UnpackedFloat.round Format.binary32 s m e = .finite s m' e' h ∧ Fits m' e' ∧
      (e' + 149).toNat * 2 ^ 23 + m' = roundedMagnitude (m * 2 ^ (e + 149).toNat) := by
  have hne : m ≠ 0 := Nat.ne_of_gt hm
  have hup := roundHalfEven_le_two_pow (m * 2 ^ (e + 149).toNat)
  have hlow := @two_pow_le_roundHalfEven (m * 2 ^ (e + 149).toNat)
  have hlog := log2_mul_two_pow hne (e + 149).toNat
  obtain ⟨t, ht⟩ : ∃ t, t = max ((m.log2 : Int) + e - 23) (-149) := ⟨_, rfl⟩
  have hdropped : (m * 2 ^ (e + 149).toNat).log2 - 23 = (t + 149).toNat := by omega
  rw [hdropped] at hup hlow
  -- The exponent is first lowered to `t` where it is above, which changes no value.
  have hlowered : t = max (((m * 2 ^ (e - t).toNat).log2 : Int) +
      (e - (e - t).toNat) - 23) (-149) := by
    rw [log2_mul_two_pow hne]
    omega
  have hround : roundHalfEven (m * 2 ^ (e - t).toNat) (2 ^ (t - (e - (e - t).toNat)).toNat) =
      roundHalfEven (m * 2 ^ (e + 149).toNat) (2 ^ (t + 149).toNat) := by
    rw [← roundHalfEven_mul_right _ _ (Nat.two_pow_pos (e - (e - t).toNat + 149).toNat),
      Nat.mul_assoc, ← Nat.pow_add, ← Nat.pow_add]
    congr 3 <;> omega
  unfold UnpackedFloat.round roundedMagnitude
  rw [targetExponent_eq, ← ht, hdropped]
  simp only [decreaseExponent, Nat.shiftLeft_eq]
  rw [roundWithAccuracy_eq s hlowered (by omega), hround]
  refine ofShifted_eq s ?_ hup (by omega) ?_
  · by_cases hlarge : 23 ≤ (m * 2 ^ (e + 149).toNat).log2
    · exact Nat.lt_of_lt_of_le (by decide) (hlow hlarge)
    · have hzero : (t + 149).toNat = 0 := by omega
      rw [hzero, Nat.pow_zero, roundHalfEven_one]
      exact Nat.mul_pos hm (Nat.two_pow_pos _)
  · by_cases hlarge : 23 ≤ (m * 2 ^ (e + 149).toNat).log2
    · exact Or.inr (hlow hlarge)
    · exact Or.inl (by omega)

/-!
## Storing a number
-/

/-- The single that an unpacked number is stored as. -/
def single (u : UnpackedFloat) : Float32 := .ofModel (.pack u)

theorem toNat_packComponents (s : Sign) (e : BitVec 8) (m : BitVec 23) :
    (packComponents Format.binary32 s e m).toNat =
      s.toBitVec.toNat * 2 ^ 31 + e.toNat * 2 ^ 23 + m.toNat := by
  have he := e.isLt
  have hm := m.isLt
  change ((s.toBitVec ++ e) ++ m).toNat = _
  rw [BitVec.toNat_append, ← Nat.shiftLeft_add_eq_or_of_lt hm, BitVec.toNat_append,
    ← Nat.shiftLeft_add_eq_or_of_lt he, Nat.shiftLeft_eq, Nat.shiftLeft_eq]
  omega

/-- Bits that are a sign bit and a magnitude have that sign and that magnitude. -/
theorem magnitude_sign_of_toNat_eq {x : Float32} {s : Sign} {n : Nat} (hn : n < 2 ^ 31)
    (h : x.toBits.toNat = s.toBitVec.toNat * 2 ^ 31 + n) : magnitude x = n ∧ sign x = s := by
  cases s
  · have hone : Sign.negative.toBitVec.toNat = 1 := rfl
    rw [hone] at h
    have hneg : negative x = true := decide_eq_true (by omega)
    exact ⟨by unfold magnitude; omega, by simp [sign, hneg]⟩
  · have hzero : Sign.positive.toBitVec.toNat = 0 := rfl
    rw [hzero] at h
    have hneg : negative x = false := decide_eq_false (by omega)
    exact ⟨by unfold magnitude; omega, by simp [sign, hneg]⟩

/-- A number that fits is stored as it is, or as an infinity if its exponent is too
great. -/
theorem single_finite (s : Sign) {m : Nat} {e : Int} (hpos : 0 < m) (hfits : Fits m e) :
    magnitude (single (.finite s m e hpos)) = min ((e + 149).toNat * 2 ^ 23 + m) infinityBits ∧
      sign (single (.finite s m e hpos)) = s := by
  obtain ⟨hlt, hle, hfull⟩ := hfits
  apply magnitude_sign_of_toNat_eq
  · unfold infinityBits
    omega
  · have hbiased : (e + Format.binary32.exponentBias + (23 : Nat)).toNat = (e + 150).toNat := by
      have hbias : (Format.binary32.exponentBias : Int) = 127 := by decide
      omega
    change (UnpackedFloat.pack Format.binary32 (.finite s m e hpos)).toNat = _
    simp only [UnpackedFloat.pack]
    rw [hbiased]
    unfold infinityBits
    split
    · next hover =>
        have htop : (-1#8 : BitVec 8).toNat = 255 := rfl
        have hnil : (0 : BitVec 23).toNat = 0 := rfl
        change 2 ^ 8 ≤ (e + 150).toNat + 1 at hover
        rw [packedInfinity, toNat_packComponents, htop, hnil]
        omega
    · next hunder =>
        change ¬ 2 ^ 8 ≤ (e + 150).toNat + 1 at hunder
        split
        · next hnormal =>
            have hlog : m.log2 = 23 := Nat.succ.inj hnormal
            have hge : 2 ^ 23 ≤ m :=
              (Nat.le_log2 (Nat.ne_of_gt hpos)).mp (Nat.le_of_eq hlog.symm)
            rw [toNat_packComponents, BitVec.toNat_ofNat, BitVec.toNat_ofNat]
            omega
        · next hsubnormal =>
            have hshort : m < 2 ^ 23 := by
              refine (Nat.log2_lt (Nat.ne_of_gt hpos)).mp ?_
              have hne : m.log2 ≠ 23 := fun h => hsubnormal (congrArg Nat.succ h)
              have hlog : m.log2 < 24 := (Nat.log2_lt (Nat.ne_of_gt hpos)).mpr hlt
              omega
            rw [toNat_packComponents, BitVec.toNat_ofNat, BitVec.toNat_ofNat]
            omega

theorem single_zero (s : Sign) : magnitude (single (.zero s)) = 0 ∧ sign (single (.zero s)) = s :=
  magnitude_sign_of_toNat_eq (by decide) (by cases s <;> rfl)

theorem single_infinity (s : Sign) :
    magnitude (single (.infinity s)) = infinityBits ∧ sign (single (.infinity s)) = s :=
  magnitude_sign_of_toNat_eq (by decide) (by cases s <;> rfl)

theorem isNaN_single_notANumber : (single .notANumber).isNaN = true := by decide

theorem isNaN_of_magnitude_le {x : Float32} (h : magnitude x ≤ infinityBits) :
    x.isNaN = false := by
  rw [← Bool.not_eq_true, isNaN_iff]
  omega

/-!
## The nearest single
-/

/-- The rank of the single nearest to a number of steps. -/
def nearest (steps : Int) : Int := steps.sign * (magnitudeBits steps.natAbs 1 : Int)

theorem nearest_zero : nearest 0 = 0 := by simp [nearest]

/-- **Monotonicity.**  More steps never give a lesser rank. -/
theorem nearest_mono {a b : Int} (h : a ≤ b) : nearest a ≤ nearest b := by
  unfold nearest
  rcases Int.lt_trichotomy a 0 with ha | rfl | ha
  · rw [Int.sign_eq_neg_one_of_neg ha]
    rcases Int.lt_trichotomy b 0 with hb | rfl | hb
    · have hle : magnitudeBits b.natAbs 1 ≤ magnitudeBits a.natAbs 1 :=
        magnitudeBits_mono (by omega)
      rw [Int.sign_eq_neg_one_of_neg hb]
      omega
    · rw [Int.sign_zero]
      omega
    · rw [Int.sign_eq_one_of_pos hb]
      omega
  · rcases Int.lt_or_eq_of_le h with hb | rfl
    · rw [Int.sign_eq_one_of_pos hb, Int.sign_zero]
      omega
    · exact Int.le_refl _
  · have hle : magnitudeBits a.natAbs 1 ≤ magnitudeBits b.natAbs 1 :=
      magnitudeBits_mono (by omega)
    rw [Int.sign_eq_one_of_pos ha, Int.sign_eq_one_of_pos (by omega : 0 < b)]
    omega

theorem single_round (s : Sign) {m : Nat} {e : Int} (hm : 0 < m) (he : -149 ≤ e) :
    magnitude (single (UnpackedFloat.round Format.binary32 s m e)) =
        magnitudeBits (m * 2 ^ (e + 149).toNat) 1 ∧
      sign (single (UnpackedFloat.round Format.binary32 s m e)) = s := by
  obtain ⟨m', e', hpos, hround, hfits, hmagnitude⟩ := round_eq s hm he
  rw [hround, magnitudeBits_one, ← hmagnitude]
  exact single_finite s hpos hfits

theorem single_normalize (n : Int) {e : Int} (he : -149 ≤ e) :
    rank (single (normalize Format.binary32 n e .positive)) = nearest (n * 2 ^ (e + 149).toNat) ∧
      (single (normalize Format.binary32 n e .positive)).isNaN = false := by
  have hpow : (0 : Int) < 2 ^ (e + 149).toNat := Int.pow_pos (by decide)
  have habs : (n * 2 ^ (e + 149).toNat).natAbs = n.natAbs * 2 ^ (e + 149).toNat := by
    rw [Int.natAbs_mul, Int.natAbs_pow]
    rfl
  have hsign : (n * 2 ^ (e + 149).toNat).sign = n.sign := by
    rw [Int.sign_mul, Int.sign_eq_one_of_pos hpow, Int.mul_one]
  unfold UnpackedFloat.normalize nearest
  rw [habs, hsign]
  rcases Int.lt_trichotomy n 0 with hn | rfl | hn
  · have hn' : (-n).toNat = n.natAbs := by omega
    obtain ⟨hm, hs⟩ := single_round .negative (show 0 < n.natAbs by omega) he
    rw [Int.compare_eq_lt.mpr hn, Int.sign_eq_neg_one_of_neg hn]
    simp only [hn']
    refine ⟨?_, isNaN_of_magnitude_le (by rw [hm]; exact magnitudeBits_le _)⟩
    rw [rank_eq_apply, hm, hs, Int.neg_one_mul]
    rfl
  · obtain ⟨hm, hs⟩ := single_zero .positive
    refine ⟨?_, isNaN_of_magnitude_le (by simp [hm])⟩
    simp [rank_eq_apply, hm, hs, Sign.apply]
  · have hn' : n.toNat = n.natAbs := by omega
    obtain ⟨hm, hs⟩ := single_round .positive (show 0 < n.natAbs by omega) he
    rw [Int.compare_eq_gt.mpr hn, Int.sign_eq_one_of_pos hn]
    simp only [hn']
    refine ⟨?_, isNaN_of_magnitude_le (by rw [hm]; exact magnitudeBits_le _)⟩
    rw [rank_eq_apply, hm, hs, Int.one_mul]
    rfl

/-!
## Numbers by their steps
-/

theorem apply_neg (s : Sign) (n : Int) : (-s).apply n = -s.apply n := by
  cases s
  · exact (Int.neg_neg n).symm
  · rfl

theorem apply_mul (s t : Sign) (n : Int) : (s * t).apply n = s.apply (t.apply n) := by
  cases s <;> cases t <;> first | rfl | exact (Int.neg_neg n).symm

theorem nearest_apply (s : Sign) {n : Nat} (h : 0 < n) :
    nearest (s.apply n) = s.apply (magnitudeBits n 1) := by
  cases s
  · simp only [nearest, Sign.apply, Int.natAbs_neg, Int.natAbs_natCast, Int.sign_neg,
      Int.sign_natCast_of_ne_zero (Nat.ne_of_gt h), Int.neg_one_mul]
  · simp only [nearest, Sign.apply, Int.natAbs_natCast,
      Int.sign_natCast_of_ne_zero (Nat.ne_of_gt h), Int.one_mul]

/-- `Reads u n`: the unpacked number `u` is finite, and is `n` steps. -/
inductive Reads : UnpackedFloat → Int → Prop
  | zero (s : Sign) : Reads (.zero s) 0
  | finite (s : Sign) {m : Nat} {e : Int} (hpos : 0 < m) (hfits : Fits m e) :
      Reads (.finite s m e hpos) (s.apply (m * 2 ^ (e + 149).toNat : Nat))

namespace Reads

variable {u v : UnpackedFloat} {a b : Int}

/-- A number that fits is stored without rounding. -/
theorem rank_single (h : Reads u a) : rank (single u) = nearest a ∧ (single u).isNaN = false := by
  cases h with
  | zero s =>
      obtain ⟨hm, hs⟩ := single_zero s
      refine ⟨?_, isNaN_of_magnitude_le (by omega)⟩
      rw [rank_eq_apply, hm, hs, nearest_zero]
      cases s <;> rfl
  | @finite s m e hpos hfits =>
      obtain ⟨hm, hs⟩ := single_finite s hpos hfits
      have hle := hfits.le
      have hk : (e + 149).toNat = 0 ∨ 2 ^ 23 ≤ m := hfits.full.imp_left (by omega)
      refine ⟨?_, isNaN_of_magnitude_le (by rw [hm]; exact Nat.min_le_right ..)⟩
      rw [nearest_apply s (Nat.mul_pos hpos (Nat.two_pow_pos _)), magnitudeBits_one,
        roundedMagnitude_mul_two_pow hfits.lt hk, rank_eq_apply, hm, hs]

/-- **Addition.**  The sum of two finite numbers is the nearest single to the exact
sum. -/
theorem add (hu : Reads u a) (hv : Reads v b) :
    rank (single (UnpackedFloat.add Format.binary32 u v)) = nearest (a + b) ∧
      (single (UnpackedFloat.add Format.binary32 u v)).isNaN = false := by
  cases hu with
  | zero s =>
      rw [Int.zero_add]
      cases hv with
      | zero t =>
          obtain ⟨r, hr⟩ : ∃ r,
              UnpackedFloat.add Format.binary32 (.zero s) (.zero t) = .zero r := by
            cases s <;> cases t <;> exact ⟨_, rfl⟩
          rw [hr]
          exact (Reads.zero r).rank_single
      | finite t hpos hfits => exact (Reads.finite t hpos hfits).rank_single
  | @finite s m e hpos hfits =>
      cases hv with
      | zero t =>
          rw [Int.add_zero]
          exact (Reads.finite s hpos hfits).rank_single
      | @finite t n d hpos' hfits' =>
          have hle := hfits.le
          have hle' := hfits'.le
          -- Both significands are shifted to the lesser exponent, so the sum is exact.
          have hscale : ∀ (r : Sign) (k : Nat) (c : Int), min e d ≤ c →
              r.apply (k <<< (c - min e d).toNat : Nat) * 2 ^ (min e d + 149).toNat =
                r.apply (k * 2 ^ (c + 149).toNat : Nat) := by
            intro r k c hc
            have hexp : (c + 149).toNat = (c - min e d).toNat + (min e d + 149).toNat := by omega
            rw [Nat.shiftLeft_eq, hexp, Nat.pow_add, ← Nat.mul_assoc]
            generalize k * 2 ^ (c - min e d).toNat = w
            cases r
            · simp [Sign.apply]
            · simp [Sign.apply]
          have hsum := single_normalize (s.apply (m <<< (e - min e d).toNat : Nat) +
            t.apply (n <<< (d - min e d).toNat : Nat)) (show -149 ≤ min e d by omega)
          rw [Int.add_mul, hscale s m e (by omega), hscale t n d (by omega)] at hsum
          exact hsum

end Reads

end Binary32

end RoadTraffic
