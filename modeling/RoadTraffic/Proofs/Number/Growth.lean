import RoadTraffic.Proofs.Number.Magnitudes

/-!
# When a sum grows

A number that is added again and again is lost in the sum once this has become too great:
one half of the distance to the next single is all that rounding takes away.  In steps, the
number at which that comes about is

    limit s  =  2 ^ 24 * (the least power of two that is not below s)

for a number of `s` steps:

* `lt_magnitudeBits_add`: below the limit of `s` a sum with `s` is above the summand;
* `magnitudeBits_add_le_limit`: up to the limit it does not lead past the limit, so at the limit
  it leads nowhere;
* `magnitude_add_of_same_side`: this is what becomes of a sum of two numbers on the same side of
  zero, also if the second is infinite.
-/

namespace RoadTraffic.Binary32

open Float.Model Float.Model.UnpackedFloat

variable {x y : Float32} {n s : Nat}

/-- From this number of steps on `s` steps are lost in a sum of finite numbers. -/
def limit (s : Nat) : Nat := 2 ^ (24 + Nat.clog 2 s)

theorem magnitudeBits_limit (s : Nat) :
    magnitudeBits (limit s) 1 = min ((Nat.clog 2 s + 2) * 2 ^ 23) infinityBits := by
  have hsplit : limit s = 2 ^ 23 * 2 ^ (Nat.clog 2 s + 1) := by
    rw [limit, ← Nat.pow_add]
    congr 1
    omega
  rw [magnitudeBits_one, hsplit, roundedMagnitude_mul_two_pow (by decide) (Or.inr (Nat.le_refl _))]
  omega

/-- A number is above the limit if it has more steps. -/
theorem limit_lt_of_lt (h : limit s < steps x) :
    magnitudeBits (limit s) 1 < magnitude x := by
  have hlt := significand_lt x
  have hfull := scale_eq_zero_or_le_significand x
  have hmagnitude := magnitude_eq_scale x
  rw [magnitudeBits_limit]
  refine Nat.lt_of_le_of_lt (Nat.min_le_left _ _) ?_
  rw [steps_eq_mul, limit] at h
  have hscale : Nat.clog 2 s < scale x := by
    by_contra hle
    have hsmall : significand x * 2 ^ scale x < 2 ^ 24 * 2 ^ Nat.clog 2 s :=
      Nat.mul_lt_mul_of_lt_of_le hlt (Nat.pow_le_pow_right (by decide) (Nat.le_of_not_lt hle))
        (Nat.two_pow_pos _)
    rw [← Nat.pow_add] at hsmall
    exact Nat.lt_asymm h hsmall
  by_cases hsame : scale x = Nat.clog 2 s + 1
  · have hpow : 2 ^ (24 + Nat.clog 2 s) = 2 ^ 23 * 2 ^ (Nat.clog 2 s + 1) := by
      rw [← Nat.pow_add]
      congr 1
      omega
    rw [hsame, hpow] at h
    have hsignificand := Nat.lt_of_mul_lt_mul_right h
    omega
  · omega

/-!
## Sums
-/

/-- **Growth.**  Below the limit a sum is above the summand. -/
theorem lt_magnitudeBits_add (hx : x.isFinite = true) (hs : 0 < s) (h : steps x < limit s) :
    magnitude x < magnitudeBits (steps x + s) 1 := by
  have hfinite := (isFinite_iff x).mp hx
  have hself := magnitudeBits_steps (isNaN_of_isFinite hx)
  by_contra hnot
  have hmono : magnitudeBits (steps x) 1 ≤ magnitudeBits (steps x + s) 1 :=
    magnitudeBits_mono (Nat.le_add_right _ _)
  -- Otherwise the sum is rounded back to the summand, which is half a step of its scale away.
  have hback : magnitude x = roundedMagnitude (steps x + s) := by
    rw [hself, magnitudeBits_one] at hmono
    rw [magnitudeBits_one] at hnot
    omega
  obtain ⟨k, hk⟩ : ∃ k, k = (steps x + s).log2 - 23 := ⟨_, rfl⟩
  have hsteps := steps_of_magnitude_eq hback
  have herror := (roundHalfEven_error (steps x + s) (Nat.two_pow_pos k)).2
  have hfull := @two_pow_le_roundHalfEven (steps x + s)
  rw [← hk] at hsteps hfull
  have hhalf : 2 * s ≤ 2 ^ k := by
    rw [← hsteps] at herror
    omega
  rcases Nat.eq_zero_or_pos k with rfl | hpos
  · omega
  · have hscale : 2 ^ 23 * 2 ^ k ≤ steps x := by
      rw [hsteps]
      exact Nat.mul_le_mul_right _ (hfull (by omega))
    have hlog : k ≤ Nat.clog 2 s := by
      rw [← Nat.pow_add] at hscale
      have hpow := (Nat.pow_lt_pow_iff_right (by decide)).mp (Nat.lt_of_le_of_lt hscale h)
      omega
    have hbelow : 2 ^ (k - 1) < s := (Nat.lt_clog_iff_pow_lt (by decide)).mp (by omega)
    have htwice : 2 ^ k = 2 * 2 ^ (k - 1) := by
      rw [← Nat.pow_succ']
      congr 1
      omega
    omega

/-- **The limit.**  A sum with a number up to the limit is not above it. -/
theorem magnitudeBits_add_le_limit (h : n ≤ limit s) :
    magnitudeBits (n + s) 1 ≤ magnitudeBits (limit s) 1 := by
  obtain ⟨c, hc⟩ : ∃ c, c = Nat.clog 2 s := ⟨_, rfl⟩
  have hs : s ≤ 2 ^ c := hc ▸ Nat.le_pow_clog (by decide) s
  -- The greatest such sum is half way between the limit and the next single, and the even one of
  -- the two is the limit.
  have htop : roundedMagnitude (2 ^ (24 + c) + 2 ^ c) = (c + 2) * 2 ^ 23 := by
    have hsum : 2 ^ (24 + c) + 2 ^ c = (2 ^ 24 + 1) * 2 ^ c := by
      rw [Nat.add_mul, Nat.one_mul, ← Nat.pow_add]
    have hlog : ((2 ^ 24 + 1) * 2 ^ c).log2 - 23 = c + 1 := by
      rw [log2_mul_two_pow (by decide)]
      have htwo : (2 ^ 24 + 1).log2 = 24 := by decide +kernel
      omega
    have hround : roundHalfEven (2 ^ 24 + 1) 2 = 2 ^ 23 := by decide +kernel
    have hunit : 2 ^ (c + 1) = 2 * 2 ^ c := Nat.pow_succ'
    rw [roundedMagnitude, hsum, hlog, hunit, roundHalfEven_mul_right _ _ (Nat.two_pow_pos c),
      hround]
    omega
  rw [limit, ← hc] at h
  refine Nat.le_trans (magnitudeBits_mono (Nat.add_le_add h hs)) ?_
  rw [magnitudeBits_limit, magnitudeBits_one, htop, ← hc]

theorem lt_iff_magnitude_lt (hx : 0 ≤ x) (hy : 0 ≤ y) : x < y ↔ magnitude x < magnitude y := by
  obtain ⟨-, hnx, hposx⟩ := le_iff.mp hx
  obtain ⟨-, hny, hposy⟩ := le_iff.mp hy
  rw [rank_zero] at hposx hposy
  rw [lt_iff, magnitude_eq_natAbs_rank, magnitude_eq_natAbs_rank]
  simp only [hnx, hny, true_and]
  omega

/-- The steps of two numbers on the same side of zero are added. -/
theorem magnitude_add_of_same_side (hx : x.isFinite = true)
    (h : (0 ≤ x ∧ 0 ≤ y) ∨ (x ≤ 0 ∧ y ≤ 0)) :
    magnitude (x + y) = magnitudeBits (steps x + steps y) 1 := by
  have hny : y.isNaN = false := by
    rcases h with ⟨-, hy⟩ | ⟨-, hy⟩
    · exact (le_iff.mp hy).2.1
    · exact (le_iff.mp hy).1
  rcases isFinite_or_infinity hny with hfinite | ⟨hinf, hrank⟩
  · have hzero : (0 : Float32).isFinite = true := by decide +kernel
    have hnone : signedSteps 0 = 0 := by decide +kernel
    have hsx := natAbs_signedSteps x
    have hsy := natAbs_signedSteps y
    have hsum : (signedSteps x + signedSteps y).natAbs = steps x + steps y := by
      rcases h with ⟨hx0, hy0⟩ | ⟨hx0, hy0⟩
      · have hxle := signedSteps_le hzero hx (le_iff.mp hx0).2.2
        have hyle := signedSteps_le hzero hfinite (le_iff.mp hy0).2.2
        omega
      · have hxle := signedSteps_le hx hzero (le_iff.mp hx0).2.2
        have hyle := signedSteps_le hfinite hzero (le_iff.mp hy0).2.2
        omega
    rw [magnitude_add hx hfinite, hsum]
  · have hmagnitude : magnitude (x + y) = magnitude y := by
      rw [magnitude_eq_natAbs_rank, magnitude_eq_natAbs_rank, (rank_add_infinity hx hinf).1, hrank]
    have htop : magnitude y = infinityBits := by
      rw [magnitude_eq_natAbs_rank, hrank]
      cases sign y <;> rw [Sign.apply] <;> omega
    have hmono := magnitudeBits_mono (Nat.le_add_left (steps y) (steps x))
    have hle := magnitudeBits_le (steps x + steps y)
    rw [magnitudeBits_steps hny, htop] at hmono
    rw [hmagnitude, htop]
    exact Nat.le_antisymm hmono hle

/-- Only the two zeros have no steps, and neither moves zero. -/
theorem zero_add_of_steps_eq_zero (hx : x.isNaN = false) (h : steps x = 0) : 0 + x = 0 := by
  have hmagnitude := magnitudeBits_steps hx
  rw [h] at hmagnitude
  have hnone : magnitudeBits 0 1 = 0 := by decide +kernel
  have hlt : x.toBits.toNat < 2 ^ 32 := x.toBits.toNat_lt
  rw [hnone, magnitude] at hmagnitude
  have hbits : x.toBits.toNat = (0 : Float32).toBits.toNat ∨
      x.toBits.toNat = (-0 : Float32).toBits.toNat := by
    have hzero : (0 : Float32).toBits.toNat = 0 := by decide +kernel
    have hminus : (-0 : Float32).toBits.toNat = 2 ^ 31 := by decide +kernel
    omega
  rcases hbits with hbits | hbits
  · rw [eq_of_toNat_eq hbits]
    decide +kernel
  · rw [eq_of_toNat_eq hbits]
    decide +kernel

end RoadTraffic.Binary32
