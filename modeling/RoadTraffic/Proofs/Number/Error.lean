import RoadTraffic.Proofs.Number.Bounds

/-!
# How far a rounded sum is from the exact one

The exact `value` of a finite single is a rational number.  A sum that does not overflow
is off by one part in `2 ^ 24` at most,

    |value (x + y) - (value x + value y)|  ≤  |value x + value y| / 2 ^ 24,

also where the numbers are subnormal, since the sum is then exact.  From this comes what
rounding can do to

* `marks_apart`: the distance between two marks that are taken back from one end;
* `value_lesser_add_le`: the end of a stride.
-/

namespace RoadTraffic

/-- Rounding a quotient moves it by a half at most. -/
theorem roundHalfEven_error (num : Nat) {den : Nat} (h : 0 < den) :
    2 * (roundHalfEven num den * den) ≤ 2 * num + den ∧
      2 * num ≤ 2 * (roundHalfEven num den * den) + den := by
  have hsplit := Nat.div_add_mod num den
  have hlt := Nat.mod_lt num h
  rw [roundHalfEven_eq]
  generalize num / den = q at *
  generalize num % den = r at *
  have hcomm : q * den = den * q := Nat.mul_comm ..
  split
  · rw [Nat.add_mul]
    omega
  · omega

namespace Binary32

open Float.Model Float.Model.UnpackedFloat

variable {x y z : Float32}

/-- The exact value of a finite single. -/
def value (x : Float32) : ℚ := signedSteps x / stepsPerUnit

theorem stepsPerUnit_pos : (0 : ℚ) < stepsPerUnit := by
  rw [stepsPerUnit]
  positivity

theorem value_zero : value 0 = 0 := by
  have hsteps : signedSteps 0 = 0 := by decide +kernel
  rw [value, hsteps, Int.cast_zero, zero_div]

theorem value_le (hx : x.isFinite = true) (hy : y.isFinite = true) (h : x ≤ y) :
    value x ≤ value y := by
  obtain ⟨-, -, hrank⟩ := le_iff.mp h
  have hsteps : (signedSteps x : ℚ) ≤ signedSteps y := by
    exact_mod_cast signedSteps_le hx hy hrank
  exact div_le_div_of_nonneg_right hsteps stepsPerUnit_pos.le

/-- A number between zero and a finite one is finite. -/
theorem isFinite_of_le (hx : 0 ≤ x) (hxy : x ≤ y) (hy : y.isFinite = true) :
    x.isFinite = true := by
  obtain ⟨-, -, hpos⟩ := le_iff.mp hx
  obtain ⟨-, -, hrank⟩ := le_iff.mp hxy
  have hlt := natAbs_rank_lt hy
  rw [rank_zero] at hpos
  rw [isFinite_iff, magnitude_eq_natAbs_rank]
  omega

/-!
## One rounding
-/

/-- A rounded magnitude stands for its significand, shifted back. -/
theorem steps_of_magnitude_eq {n : Nat} (h : magnitude x = roundedMagnitude n) :
    steps x = roundHalfEven n (2 ^ (n.log2 - 23)) * 2 ^ (n.log2 - 23) := by
  have hle := roundHalfEven_le_two_pow n
  have hfull := @two_pow_le_roundHalfEven n
  have hscaled := magnitude_eq_scale x
  have hlt := significand_lt x
  have hbit := scale_eq_zero_or_le_significand x
  rw [roundedMagnitude] at h
  rw [steps, Nat.shiftLeft_eq]
  obtain ⟨k, hk⟩ : ∃ k, k = n.log2 - 23 := ⟨_, rfl⟩
  rw [← hk] at h hle hfull ⊢
  generalize roundHalfEven n (2 ^ k) = m at h hle hfull ⊢
  rcases Nat.lt_or_eq_of_le hle with hshort | rfl
  · have hscale : scale x = k := by omega
    have hsame : significand x = m := by omega
    rw [hscale, hsame]
  · -- The significand was rounded up to a power of two and carried into the scale.
    have hscale : scale x = k + 1 := by omega
    have hsame : significand x = 2 ^ 23 := by omega
    rw [hscale, hsame, Nat.pow_succ]
    omega

/-- A finite single is off by one part in `2 ^ 24` at most from a number of steps that it is
nearest to. -/
theorem steps_error {n : Nat} (hx : x.isFinite = true) (h : magnitude x = magnitudeBits n 1) :
    2 ^ 24 * steps x ≤ 2 ^ 24 * n + n ∧ 2 ^ 24 * n ≤ 2 ^ 24 * steps x + n := by
  have hlt := (isFinite_iff x).mp hx
  rw [magnitudeBits_one] at h
  have hrounded : magnitude x = roundedMagnitude n := by omega
  rw [steps_of_magnitude_eq hrounded]
  obtain ⟨hup, hdown⟩ := roundHalfEven_error n (Nat.two_pow_pos (n.log2 - 23))
  by_cases hexact : n.log2 - 23 = 0
  · rw [hexact, Nat.pow_zero, roundHalfEven_one]
    omega
  · have hne : n ≠ 0 := by
      rintro rfl
      simp at hexact
    have hlog : 2 ^ 23 * 2 ^ (n.log2 - 23) ≤ n := by
      rw [← Nat.pow_add, show 23 + (n.log2 - 23) = n.log2 by omega]
      exact Nat.log2_self_le hne
    omega

theorem exists_apply_natAbs (n : Int) : ∃ s : Sign, n = s.apply n.natAbs := by
  rcases Int.le_total 0 n with h | h
  · exact ⟨.positive, by rw [Sign.apply]; omega⟩
  · exact ⟨.negative, by rw [Sign.apply]; omega⟩

/-- **One rounding.**  The exact value of what a number of steps is rounded to is off by one
part in `2 ^ 24` at most. -/
theorem signedSteps_error {n : Int} (hx : x.isFinite = true) (h : rank x = nearest n) :
    2 ^ 24 * (signedSteps x - n).natAbs ≤ n.natAbs := by
  obtain ⟨s, hs⟩ := exists_apply_natAbs n
  rw [hs] at h
  obtain ⟨hmagnitude, hsteps⟩ := signedSteps_of_rank_eq h
  obtain ⟨hup, hdown⟩ := steps_error hx hmagnitude
  rw [hsteps]
  cases s <;> rw [Sign.apply] at hs ⊢ <;> omega

/-- **One sum.** -/
theorem value_add_error (hx : x.isFinite = true) (hy : y.isFinite = true)
    (hsum : (x + y).isFinite = true) :
    |value (x + y) - (value x + value y)| ≤ |value x + value y| / 2 ^ 24 := by
  have herror := signedSteps_error hsum (rank_add hx hy).1
  have hint : 2 ^ 24 * |signedSteps (x + y) - (signedSteps x + signedSteps y)| ≤
      |signedSteps x + signedSteps y| := by
    rw [← Int.natCast_natAbs, ← Int.natCast_natAbs]
    exact_mod_cast herror
  have hrat : (2 ^ 24 : ℚ) * |(signedSteps (x + y) : ℚ) - (signedSteps x + signedSteps y)| ≤
      |(signedSteps x : ℚ) + signedSteps y| := by exact_mod_cast hint
  unfold value
  rw [← add_div, ← sub_div, abs_div, abs_div, abs_of_pos stepsPerUnit_pos, div_div,
    mul_comm, ← div_div]
  refine div_le_div_of_nonneg_right ?_ stepsPerUnit_pos.le
  rw [le_div_iff₀ (by positivity), mul_comm]
  exact hrat

theorem signedSteps_neg (h : x.isNaN = false) : signedSteps (-x) = -signedSteps x := by
  obtain ⟨hm, hs⟩ := magnitude_neg h
  rw [signedSteps, signedSteps, hs, apply_neg, steps_eq_of_magnitude_eq hm]

theorem value_neg (h : x.isFinite = true) : value (-x) = -value x := by
  rw [value, value, signedSteps_neg (isNaN_of_isFinite h), Int.cast_neg, neg_div]

theorem isFinite_neg (h : x.isFinite = true) : (-x).isFinite = true := by
  rw [isFinite_iff, (magnitude_neg (isNaN_of_isFinite h)).1]
  exact (isFinite_iff x).mp h

/-- **One difference.** -/
theorem value_sub_error (hx : x.isFinite = true) (hy : y.isFinite = true)
    (hsub : (x - y).isFinite = true) :
    |value (x - y) - (value x - value y)| ≤ |value x - value y| / 2 ^ 24 := by
  rw [sub_eq_add (isNaN_of_isFinite hy)] at hsub ⊢
  have herror := value_add_error hx (isFinite_neg hy) hsub
  have hexact : value x + -value y = value x - value y := by ring
  rwa [value_neg hy, hexact] at herror

/-!
## Sums up to a difference
-/

/-- The difference of finite numbers is the nearest number to the exact difference. -/
theorem rank_sub (hx : x.isFinite = true) (hy : y.isFinite = true) :
    rank (x - y) = nearest (signedSteps x - signedSteps y) ∧ (x - y).isNaN = false := by
  rw [sub_eq_add (isNaN_of_isFinite hy), Int.sub_eq_add_neg,
    ← signedSteps_neg (isNaN_of_isFinite hy)]
  exact rank_add hx (isFinite_neg hy)

/-- **What is below a difference does not lead past it.**  The difference may have been rounded
up, but no number lies between the exact one and the rounded one. -/
theorem add_le_of_lt_sub (hx : x.isFinite = true) (hy : y.isFinite = true)
    (hz : z.isFinite = true) (h : z < y - x) : x + z ≤ y := by
  obtain ⟨hsum, hnum⟩ := rank_add hx hz
  obtain ⟨-, -, hlt⟩ := lt_iff.mp h
  have hexact : signedSteps x + signedSteps z ≤ signedSteps y := by
    by_contra hover
    have hback := nearest_mono (show signedSteps y - signedSteps x ≤ signedSteps z by omega)
    rw [nearest_signedSteps hz, ← (rank_sub hy hx).1] at hback
    omega
  refine le_iff.mpr ⟨hnum, isNaN_of_isFinite hy, ?_⟩
  rw [hsum, ← nearest_signedSteps hy]
  exact nearest_mono hexact

/-- What is above a difference does not lead past it downwards. -/
theorem le_add_of_sub_lt (hx : x.isFinite = true) (hy : y.isFinite = true)
    (hz : z.isFinite = true) (h : y - x < z) : y ≤ x + z := by
  obtain ⟨hsum, hnum⟩ := rank_add hx hz
  obtain ⟨-, -, hlt⟩ := lt_iff.mp h
  have hexact : signedSteps y ≤ signedSteps x + signedSteps z := by
    by_contra hover
    have hback := nearest_mono (show signedSteps z ≤ signedSteps y - signedSteps x by omega)
    rw [nearest_signedSteps hz, ← (rank_sub hy hx).1] at hback
    omega
  refine le_iff.mpr ⟨isNaN_of_isFinite hy, hnum, ?_⟩
  rw [hsum, ← nearest_signedSteps hy]
  exact nearest_mono hexact

/-!
## Marks and strides
-/

theorem value_nonneg (h : 0 ≤ x) (hx : x.isFinite = true) : 0 ≤ value x := by
  rw [← value_zero]
  exact value_le (isFinite_of_le (le_self isNaN_zero) h hx) hx h

/-- What is taken away from a finite number to leave one above zero is finite, if it is not
below zero, and is less than the number. -/
theorem sub_pos_spec (hx : x.isFinite = true) (hy : 0 ≤ y) (h : 0 < x - y) :
    y.isFinite = true ∧ (x - y).isFinite = true ∧ value y ≤ value x := by
  obtain ⟨-, hny, hpos⟩ := le_iff.mp hy
  obtain ⟨-, hnum, hrank⟩ := lt_iff.mp h
  rw [rank_zero] at hpos hrank
  rw [sub_eq_add hny] at hrank hnum
  have hfy : y.isFinite = true := by
    rcases isFinite_or_infinity (isNaN_neg hny) with hfinite | ⟨hinf, hneg⟩
    · rw [isFinite_iff, (magnitude_neg hny).1] at hfinite
      exact (isFinite_iff y).mpr hfinite
    · -- Only a number below zero is left of a finite one without an infinity.
      have hbits : 0 < infinityBits := by decide
      rw [rank_neg hny] at hneg
      rw [(rank_add_infinity hx hinf).1, ← hneg] at hrank
      omega
  refine ⟨hfy, isFinite_of_le (le_of_lt h) (sub_le hy (lt_iff.mp h).2.1) hx, ?_⟩
  have hsteps : signedSteps y ≤ signedSteps x := by
    by_contra hlt
    have hneg : signedSteps x + signedSteps (-y) ≤ 0 := by
      rw [signedSteps_neg hny]
      omega
    have hnearest := nearest_mono hneg
    rw [(rank_add hx (isFinite_neg hfy)).1] at hrank
    rw [nearest_zero] at hnearest
    omega
  have hrat : (signedSteps y : ℚ) ≤ signedSteps x := by exact_mod_cast hsteps
  exact div_le_div_of_nonneg_right hrat stepsPerUnit_pos.le

/-- Both sides of an error, if the exact result is not below zero. -/
theorem bounds_of_error {exact rounded : ℚ} (h : |rounded - exact| ≤ |exact| / 2 ^ 24)
    (h0 : 0 ≤ exact) :
    exact - exact / 2 ^ 24 ≤ rounded ∧ rounded ≤ exact + exact / 2 ^ 24 := by
  rw [abs_of_nonneg h0] at h
  obtain ⟨hlow, hup⟩ := abs_le.mp h
  constructor <;> linarith

variable {length room mark d speed p q : Float32}

/-- **Marks.**  Two marks are taken back from the end of a straight, the second by a car and
a following distance more.  They are that far apart, up to rounding. -/
theorem marks_apart (hlength : length.isFinite = true) (hroom : 0 ≤ room) (hx : 0 ≤ x)
    (hd : 0 ≤ d) (h : 0 < length - (room + (x + d))) :
    x.isFinite = true ∧ (length - room).isFinite = true ∧
      (length - (room + (x + d))).isFinite = true ∧
      value x + value d - 6 * (value length / 2 ^ 24) ≤
        value (length - room) - value (length - (room + (x + d))) := by
  have hadded : 0 ≤ x + d := le_trans hx (le_add hx hd)
  have hbehind : 0 ≤ room + (x + d) := le_trans hroom (le_add hroom hadded)
  have hadd : x + d ≤ room + (x + d) := by
    rw [add_comm room]
    exact le_add hadded hroom
  obtain ⟨hfbehind, hfmark, hle⟩ := sub_pos_spec hlength hbehind h
  have hfadded := isFinite_of_le hadded hadd hfbehind
  have hfroom := isFinite_of_le hroom (le_add hroom hadded) hfbehind
  have hfx := isFinite_of_le hx (le_add hx hd) hfadded
  have hfd : d.isFinite = true := by
    have hle : d ≤ x + d := by
      rw [add_comm]
      exact le_add hd hx
    exact isFinite_of_le hd hle hfadded
  have hfirst : 0 < length - room :=
    lt_of_lt_of_le h (sub_le_sub_left hroom (le_add hroom hadded) (lt_iff.mp h).2.1)
  obtain ⟨-, hfmark', hle'⟩ := sub_pos_spec hlength hroom hfirst
  refine ⟨hfx, hfmark', hfmark, ?_⟩
  have hxd := value_add_error hfx hfd hfadded
  have hsum := value_add_error hfroom hfadded hfbehind
  have hmark := value_sub_error hlength hfbehind hfmark
  have hmark' := value_sub_error hlength hfroom hfmark'
  have hbound := value_le hfadded hfbehind hadd
  have h0x := value_nonneg hx hfx
  have h0d := value_nonneg hd hfd
  have h0room := value_nonneg hroom hfroom
  have h0added := value_nonneg hadded hfadded
  obtain ⟨hxd, -⟩ := bounds_of_error hxd (by linarith)
  obtain ⟨hsum, -⟩ := bounds_of_error hsum (by linarith)
  obtain ⟨-, hmark⟩ := bounds_of_error hmark (by linarith)
  obtain ⟨hmark', -⟩ := bounds_of_error hmark' (by linarith)
  linarith

/-- **A stride.**  It ends no further than exactly a stride on, up to rounding. -/
theorem value_lesser_add_le (hlength : length.isFinite = true) (hp : 0 ≤ p)
    (hend : p ≤ length) (hspeed : 0 ≤ speed) (hfinite : speed.isFinite = true) :
    value (Scalar.lesser (p + speed) length) ≤
      value p + value speed + 2 * (value length / 2 ^ 24) := by
  have hfp := isFinite_of_le hp hend hlength
  have hsum := le_add hp hspeed
  obtain ⟨-, hnum, -⟩ := le_iff.mp hsum
  have hnl := isNaN_of_isFinite hlength
  have h0 := value_nonneg (le_trans hp hend) hlength
  have h0p := value_nonneg hp hfp
  have h0s := value_nonneg hspeed hfinite
  unfold Scalar.lesser
  rw [hnum, if_neg Bool.false_ne_true]
  by_cases hover : length < p + speed
  · -- What is rounded to more than the length was not less.
    rw [if_pos hover]
    obtain ⟨-, -, hrank⟩ := lt_iff.mp hover
    have hsteps : signedSteps length ≤ signedSteps p + signedSteps speed := by
      by_contra hlt
      have hnearest := nearest_mono (Int.not_le.mp hlt).le
      rw [nearest_signedSteps hlength, ← (rank_add hfp hfinite).1] at hnearest
      omega
    have hrat : (signedSteps length : ℚ) ≤ signedSteps p + signedSteps speed := by
      exact_mod_cast hsteps
    have hexact : value length ≤ value p + value speed := by
      rw [value, value, value, ← add_div]
      exact div_le_div_of_nonneg_right hrat stepsPerUnit_pos.le
    linarith
  · rw [if_neg hover]
    have hle := le_of_not_lt hnl hnum hover
    have hfsum := isFinite_of_le (le_trans hp hsum) hle hlength
    obtain ⟨hlow, hup⟩ := bounds_of_error (value_add_error hfp hfinite hfsum) (by linarith)
    have hbound := value_le hfsum hlength hle
    linarith

end Binary32

end RoadTraffic
