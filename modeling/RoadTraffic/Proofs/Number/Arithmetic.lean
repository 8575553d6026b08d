import RoadTraffic.Proofs.Number.Rounding
import RoadTraffic.Number.Scalar

/-!
# The arithmetic of singles keeps their order

A queue of cars is kept in order by a few laws of rounded arithmetic.  None of
them says how far a result is from the exact one, and all of them hold for the
infinities as well:

* `add_le_add_left`, `add_le_add_right`, `sub_le_sub_left`: sums grow with a summand,
  and differences fall with what is taken away;
* `rank_add_zero`: adding zero leaves a number where it is;
* `isNaN_add_eq_false`, `isNaN_sub_eq_false`: a result is NaN only if two infinities
  cancel;
* `Signed.mul`, `Signed.div`: products and quotients have the signs of their
  operands.

Finite numbers are added by their steps.  An infinity is its own sum with every
number but the other infinity.
-/

namespace RoadTraffic.Binary32

open Float.Model Float.Model.UnpackedFloat

variable {x y z : Float32}

/-!
## Numbers by their steps
-/

/-- The exact value of a finite single, as a number of steps. -/
def signedSteps (x : Float32) : Int := (sign x).apply (steps x)

theorem magnitude_eq_natAbs_rank (x : Float32) : magnitude x = (rank x).natAbs := by
  unfold rank
  split <;> omega

/-- The fields below the sign are read off the magnitude. -/
theorem steps_eq_of_magnitude_eq (h : magnitude x = magnitude y) : steps x = steps y := by
  have hx := magnitude_eq x
  have hy := magnitude_eq y
  have hfx := fractionField_lt x
  have hfy := fractionField_lt y
  have hexponent : exponentField x = exponentField y := by omega
  have hfraction : fractionField x = fractionField y := by omega
  simp only [steps, significand, scale, hexponent, hfraction]

theorem steps_eq_zero (h : magnitude x = 0) : steps x = 0 := by
  have hscale := magnitude_eq_scale x
  have hzero : significand x = 0 := by omega
  rw [steps, hzero, Nat.zero_shiftLeft]

/-- Numbers of one rank have one value. -/
theorem signedSteps_eq_of_rank_eq (h : rank x = rank y) : signedSteps x = signedSteps y := by
  have hmagnitude : magnitude x = magnitude y := by
    rw [magnitude_eq_natAbs_rank, magnitude_eq_natAbs_rank, h]
  unfold signedSteps
  by_cases hzero : magnitude x = 0
  · rw [steps_eq_zero hzero, steps_eq_zero (hmagnitude ▸ hzero)]
    cases sign x <;> cases sign y <;> rfl
  · rw [rank_eq_apply, rank_eq_apply, hmagnitude] at h
    rw [steps_eq_of_magnitude_eq hmagnitude]
    cases hx : sign x <;> cases hy : sign y <;> simp only [hx, hy, Sign.apply] at h ⊢ <;> omega

theorem fits_significand (x : Float32) : Fits (significand x) ((scale x : Int) - 149) :=
  ⟨significand_lt x, by omega, (scale_eq_zero_or_le_significand x).imp_left (by omega)⟩

/-- A finite single is read as its steps. -/
theorem reads_unpack (h : x.isFinite = true) : Reads x.toModel.unpack (signedSteps x) := by
  have hlt := (isFinite_iff x).mp h
  rcases unpack_cases (isNaN_of_isFinite h) with ⟨-, hm⟩ | ⟨hu, hm⟩ | ⟨hpos, hu, -, -⟩
  · omega
  · have hzero : signedSteps x = 0 := by
      rw [signedSteps, steps_eq_zero hm]
      cases sign x <;> rfl
    rw [hu, hzero]
    exact .zero _
  · have hsteps : signedSteps x =
        (sign x).apply (significand x * 2 ^ ((scale x : Int) - 149 + 149).toNat : Nat) := by
      rw [signedSteps, steps, Nat.shiftLeft_eq, Int.sub_add_cancel, Int.toNat_natCast]
    rw [hu, hsteps]
    exact .finite _ hpos (fits_significand x)

/-- A number is stored as it was read. -/
theorem single_unpack (h : x.isNaN = false) :
    magnitude (single x.toModel.unpack) = magnitude x ∧
      sign (single x.toModel.unpack) = sign x := by
  rcases unpack_cases h with ⟨hu, hm⟩ | ⟨hu, hm⟩ | ⟨hpos, hu, -, hm⟩
  · rw [hu, hm]
    exact single_infinity _
  · rw [hu, hm]
    exact single_zero _
  · obtain ⟨hmagnitude, hsign⟩ := single_finite (sign x) hpos (fits_significand x)
    have hscale := magnitude_eq_scale x
    rw [hu]
    exact ⟨by omega, hsign⟩

/-- A finite single is the nearest to its own value. -/
theorem nearest_signedSteps (h : x.isFinite = true) : nearest (signedSteps x) = rank x := by
  obtain ⟨hm, hs⟩ := single_unpack (isNaN_of_isFinite h)
  rw [← (reads_unpack h).rank_single.1, rank_eq_apply, rank_eq_apply x, hm, hs]

/-- Numbers are ordered as their values. -/
theorem signedSteps_le (hx : x.isFinite = true) (hy : y.isFinite = true) (h : rank x ≤ rank y) :
    signedSteps x ≤ signedSteps y := by
  rcases Int.lt_or_le (signedSteps y) (signedSteps x) with hlt | hge
  · have hrank := nearest_mono (Int.le_of_lt hlt)
    rw [nearest_signedSteps hx, nearest_signedSteps hy] at hrank
    exact Int.le_of_eq (signedSteps_eq_of_rank_eq (Int.le_antisymm h hrank))
  · exact hge

/-!
## Sums
-/

/-- A number is finite, or one of the infinities. -/
theorem isFinite_or_infinity (h : x.isNaN = false) :
    x.isFinite = true ∨
      (x.toModel.unpack = .infinity (sign x) ∧ rank x = (sign x).apply infinityBits) := by
  rcases unpack_cases h with ⟨hu, hm⟩ | ⟨-, hm⟩ | ⟨-, -, -, hm⟩
  · exact Or.inr ⟨hu, by rw [rank_eq_apply, hm]⟩
  · refine Or.inl ((isFinite_iff x).mpr ?_)
    rw [hm]
    decide
  · exact Or.inl ((isFinite_iff x).mpr hm)

theorem natAbs_rank_lt (h : x.isFinite = true) : (rank x).natAbs < infinityBits := by
  rw [← magnitude_eq_natAbs_rank]
  exact (isFinite_iff x).mp h

/-- The sum of finite numbers is the nearest number to the exact sum. -/
theorem rank_add (hx : x.isFinite = true) (hy : y.isFinite = true) :
    rank (x + y) = nearest (signedSteps x + signedSteps y) ∧ (x + y).isNaN = false :=
  (reads_unpack hx).add (reads_unpack hy)

theorem rank_single_infinity (s : Sign) :
    rank (single (.infinity s)) = s.apply infinityBits ∧
      (single (.infinity s)).isNaN = false := by
  obtain ⟨hm, hs⟩ := single_infinity s
  exact ⟨by rw [rank_eq_apply, hm, hs], isNaN_of_magnitude_le (by omega)⟩

theorem Reads.infinity_add {u : UnpackedFloat} {a : Int} (h : Reads u a) (s : Sign) :
    UnpackedFloat.add Format.binary32 (.infinity s) u = .infinity s := by
  cases h <;> rfl

theorem Reads.add_infinity {u : UnpackedFloat} {a : Int} (h : Reads u a) (s : Sign) :
    UnpackedFloat.add Format.binary32 u (.infinity s) = .infinity s := by
  cases h <;> rfl

theorem add_eq_single (x y : Float32) :
    x + y = single (UnpackedFloat.add Format.binary32 x.toModel.unpack y.toModel.unpack) := rfl

/-- A finite number added to an infinity changes nothing. -/
theorem rank_infinity_add {s : Sign} (hx : x.toModel.unpack = .infinity s)
    (hy : y.isFinite = true) :
    rank (x + y) = s.apply infinityBits ∧ (x + y).isNaN = false := by
  rw [add_eq_single, hx, (reads_unpack hy).infinity_add]
  exact rank_single_infinity s

theorem rank_add_infinity {s : Sign} (hx : x.isFinite = true)
    (hy : y.toModel.unpack = .infinity s) :
    rank (x + y) = s.apply infinityBits ∧ (x + y).isNaN = false := by
  rw [add_eq_single, hy, (reads_unpack hx).add_infinity]
  exact rank_single_infinity s

/-- Two infinities have a sum if their signs agree. -/
theorem infinity_add_infinity {s t : Sign} (hx : x.toModel.unpack = .infinity s)
    (hy : y.toModel.unpack = .infinity t) :
    (s = t ∧ rank (x + y) = s.apply infinityBits ∧ (x + y).isNaN = false) ∨
      (s ≠ t ∧ (x + y).isNaN = true) := by
  rw [add_eq_single, hx, hy]
  cases s <;> cases t
  · exact Or.inl ⟨rfl, rank_single_infinity _⟩
  · exact Or.inr ⟨by simp, isNaN_single_notANumber⟩
  · exact Or.inr ⟨by simp, isNaN_single_notANumber⟩
  · exact Or.inl ⟨rfl, rank_single_infinity _⟩

/-- An infinity is its own sum with every number, if there is one. -/
theorem rank_add_of_infinity {s : Sign} (hx : x.toModel.unpack = .infinity s)
    (hy : y.isNaN = false) (hsum : (x + y).isNaN = false) :
    rank (x + y) = s.apply infinityBits := by
  rcases isFinite_or_infinity hy with hfin | ⟨hinf, -⟩
  · exact (rank_infinity_add hx hfin).1
  · rcases infinity_add_infinity hx hinf with ⟨-, hrank, -⟩ | ⟨-, hnan⟩
    · exact hrank
    · rw [hnan] at hsum
      contradiction

/-- A sum with NaN is NaN. -/
theorem isNaN_of_isNaN_add (h : (x + y).isNaN = false) : x.isNaN = false := by
  rw [← Bool.not_eq_true]
  intro hx
  rw [add_eq_single, unpack_of_isNaN hx] at h
  exact Bool.false_ne_true (h.symm.trans isNaN_single_notANumber)

theorem natAbs_rank_le (h : x.isNaN = false) : (rank x).natAbs ≤ infinityBits := by
  rw [← magnitude_eq_natAbs_rank]
  have hle : ¬ infinityBits < magnitude x := mt (isNaN_iff x).mpr (ne_true_of_eq_false h)
  omega

/-- **Sums grow with a summand.** -/
theorem add_le_add_left (h : y ≤ z) (hy : (x + y).isNaN = false) (hz : (x + z).isNaN = false) :
    x + y ≤ x + z := by
  obtain ⟨hny, hnz, hrank⟩ := le_iff.mp h
  refine le_iff.mpr ⟨hy, hz, ?_⟩
  have hley := natAbs_rank_le hy
  have hlez := natAbs_rank_le hz
  rcases isFinite_or_infinity (isNaN_of_isNaN_add hy) with hfx | ⟨hinf, -⟩
  · rcases isFinite_or_infinity hny with hfy | ⟨huy, hry⟩
    · rcases isFinite_or_infinity hnz with hfz | ⟨huz, hrz⟩
      · rw [(rank_add hfx hfy).1, (rank_add hfx hfz).1]
        exact nearest_mono (Int.add_le_add_left (signedSteps_le hfy hfz hrank) _)
      · have hlt := natAbs_rank_lt hfy
        rw [(rank_add_infinity hfx huz).1, ← hrz]
        cases hs : sign z <;> rw [hs, Sign.apply] at hrz <;> omega
    · have hle := natAbs_rank_le hnz
      rw [(rank_add_infinity hfx huy).1, ← hry]
      rcases isFinite_or_infinity hnz with hfz | ⟨huz, hrz⟩
      · have hlt := natAbs_rank_lt hfz
        cases hs : sign y <;> rw [hs, Sign.apply] at hry <;> omega
      · rw [(rank_add_infinity hfx huz).1, ← hrz]
        exact hrank
  · have hsame := rank_add_of_infinity hinf hny hy
    exact Int.le_of_eq (hsame.trans (rank_add_of_infinity hinf hnz hz).symm)

theorem add_comm (x y : Float32) : x + y = y + x := by
  rw [add_eq_single, add_eq_single]
  refine congrArg single ?_
  cases x.toModel.unpack <;> cases y.toModel.unpack <;> simp only [UnpackedFloat.add]
  case infinity.infinity s t => cases s <;> cases t <;> rfl
  case zero.zero s t => cases s <;> cases t <;> rfl
  case finite.finite e _ _ _ f _ => rw [Int.min_comm e f, Int.add_comm]

/-- Sums grow with the other summand too. -/
theorem add_le_add_right (h : x ≤ y) (hx : (x + z).isNaN = false) (hy : (y + z).isNaN = false) :
    x + z ≤ y + z := by
  rw [add_comm x, add_comm y] at *
  exact add_le_add_left h hx hy

/-- Adding one of the zeros leaves a number where it is. -/
theorem rank_add_zero (hx : x.isNaN = false) (h : rank y = 0) :
    rank (x + y) = rank x ∧ (x + y).isNaN = false := by
  have hfinite : y.isFinite = true := by
    rw [isFinite_iff, magnitude_eq_natAbs_rank, h]
    decide
  rcases isFinite_or_infinity hx with hfin | ⟨hinf, hrank⟩
  · have hsteps : signedSteps y = 0 :=
      (signedSteps_eq_of_rank_eq (y := 0) h).trans (by decide +kernel)
    obtain ⟨hsum, hnan⟩ := rank_add hfin hfinite
    rw [hsteps, Int.add_zero, nearest_signedSteps hfin] at hsum
    exact ⟨hsum, hnan⟩
  · rw [hrank]
    exact rank_infinity_add hinf hfinite

/-- A sum of numbers on the same side of zero is a number. -/
theorem isNaN_add_eq_false (hx : x.isNaN = false) (hy : y.isNaN = false)
    (h : (0 ≤ rank x ∧ 0 ≤ rank y) ∨ (rank x ≤ 0 ∧ rank y ≤ 0)) : (x + y).isNaN = false := by
  have hpos : 0 < infinityBits := by decide
  rcases isFinite_or_infinity hx with hfx | ⟨hux, hrx⟩
  · rcases isFinite_or_infinity hy with hfy | ⟨huy, -⟩
    · exact (rank_add hfx hfy).2
    · exact (rank_add_infinity hfx huy).2
  · rcases isFinite_or_infinity hy with hfy | ⟨huy, hry⟩
    · exact (rank_infinity_add hux hfy).2
    · rcases infinity_add_infinity hux huy with ⟨-, -, hnan⟩ | ⟨hne, -⟩
      · exact hnan
      · cases hs : sign x <;> cases ht : sign y <;> rw [hs, ht] at hne <;>
          rw [hs, Sign.apply] at hrx <;> rw [ht, Sign.apply] at hry <;>
          first | omega | exact absurd rfl hne

theorem isNaN_zero : (0 : Float32).isNaN = false := by decide +kernel

theorem rank_zero : rank 0 = 0 := by decide +kernel

theorem le_self (h : x.isNaN = false) : x ≤ x := le_iff.mpr ⟨h, h, Int.le_refl _⟩

theorem le_trans (hxy : x ≤ y) (hyz : y ≤ z) : x ≤ z := by
  obtain ⟨hx, -, hle⟩ := le_iff.mp hxy
  obtain ⟨-, hz, hle'⟩ := le_iff.mp hyz
  exact le_iff.mpr ⟨hx, hz, Int.le_trans hle hle'⟩

theorem lt_of_lt_of_le (hxy : x < y) (hyz : y ≤ z) : x < z := by
  obtain ⟨hx, -, hlt⟩ := lt_iff.mp hxy
  obtain ⟨-, hz, hle⟩ := le_iff.mp hyz
  exact lt_iff.mpr ⟨hx, hz, Int.lt_of_lt_of_le hlt hle⟩

theorem lt_of_le_of_lt (hxy : x ≤ y) (hyz : y < z) : x < z := by
  obtain ⟨hx, -, hle⟩ := le_iff.mp hxy
  obtain ⟨-, hz, hlt⟩ := lt_iff.mp hyz
  exact lt_iff.mpr ⟨hx, hz, Int.lt_of_le_of_lt hle hlt⟩

theorem le_of_lt (h : x < y) : x ≤ y := by
  obtain ⟨hx, hy, hlt⟩ := lt_iff.mp h
  exact le_iff.mpr ⟨hx, hy, Int.le_of_lt hlt⟩

/-- What is not below is above, if both are numbers. -/
theorem le_of_not_lt (hx : x.isNaN = false) (hy : y.isNaN = false) (h : ¬ x < y) : y ≤ x := by
  refine le_iff.mpr ⟨hy, hx, Int.not_lt.mp ?_⟩
  exact fun hlt => h (lt_iff.mpr ⟨hx, hy, hlt⟩)

/-- A number above zero added to another takes it no lower. -/
theorem le_add (hx : 0 ≤ x) (hy : 0 ≤ y) : x ≤ x + y := by
  obtain ⟨-, hnx, hrx⟩ := le_iff.mp hx
  obtain ⟨-, hny, hry⟩ := le_iff.mp hy
  rw [rank_zero] at hrx hry
  obtain ⟨hsame, hzero⟩ := rank_add_zero hnx rank_zero
  have hsum := isNaN_add_eq_false hnx hny (Or.inl ⟨hrx, hry⟩)
  exact le_trans (le_iff.mpr ⟨hnx, hzero, Int.le_of_eq hsame.symm⟩)
    (add_le_add_left hy hzero hsum)

/-- A number below zero added to another takes it no higher. -/
theorem add_le (hx : x ≤ 0) (hy : y ≤ 0) : x + y ≤ x := by
  obtain ⟨hnx, -, hrx⟩ := le_iff.mp hx
  obtain ⟨hny, -, hry⟩ := le_iff.mp hy
  rw [rank_zero] at hrx hry
  obtain ⟨hsame, hzero⟩ := rank_add_zero hnx rank_zero
  have hsum := isNaN_add_eq_false hnx hny (Or.inr ⟨hrx, hry⟩)
  exact le_trans (add_le_add_left hy hsum hzero)
    (le_iff.mpr ⟨hzero, hnx, Int.le_of_eq hsame⟩)

/-!
## Differences
-/

theorem sub_eq_add_neg (u v : UnpackedFloat) :
    UnpackedFloat.sub Format.binary32 u v = UnpackedFloat.add Format.binary32 u v.neg := by
  cases u <;> cases v <;>
    simp only [UnpackedFloat.sub, UnpackedFloat.add, UnpackedFloat.neg, apply_neg,
      Int.sub_eq_add_neg]

/-- Negation turns the sign and keeps the magnitude. -/
theorem magnitude_neg (h : x.isNaN = false) :
    magnitude (-x) = magnitude x ∧ sign (-x) = -sign x := by
  change magnitude (single x.toModel.unpack.neg) = _ ∧ sign (single x.toModel.unpack.neg) = _
  rcases unpack_cases h with ⟨hu, hm⟩ | ⟨hu, hm⟩ | ⟨hpos, hu, -, hm⟩
  · rw [hu, hm]
    exact single_infinity _
  · rw [hu, hm]
    exact single_zero _
  · obtain ⟨hmagnitude, hsign⟩ := single_finite (-sign x) hpos (fits_significand x)
    have hscale := magnitude_eq_scale x
    rw [hu, UnpackedFloat.neg]
    exact ⟨by omega, hsign⟩

theorem rank_neg (h : x.isNaN = false) : rank (-x) = -rank x := by
  obtain ⟨hm, hs⟩ := magnitude_neg h
  rw [rank_eq_apply, rank_eq_apply, hm, hs, apply_neg]

theorem isNaN_neg (h : x.isNaN = false) : (-x).isNaN = false := by
  refine isNaN_of_magnitude_le ?_
  rw [(magnitude_neg h).1, magnitude_eq_natAbs_rank]
  exact natAbs_rank_le h

/-- A negated number is read with the other sign. -/
theorem unpack_neg (h : x.isNaN = false) : (-x).toModel.unpack = x.toModel.unpack.neg := by
  obtain ⟨hm, hs⟩ := magnitude_neg h
  have hx := magnitude_eq x
  have hy := magnitude_eq (-x)
  have hfx := fractionField_lt x
  have hfy := fractionField_lt (-x)
  have hexponent : exponentField (-x) = exponentField x := by omega
  have hfraction : fractionField (-x) = fractionField x := by omega
  have hsignificand : significand (-x) = significand x := by
    simp only [significand, hexponent, hfraction]
  have hscale : scale (-x) = scale x := by simp only [scale, hexponent]
  rw [unpack_eq, unpack_eq, hs]
  simp only [hexponent, hfraction, hsignificand, hscale]
  split
  · split <;> rfl
  · split <;> rfl

/-- A difference is a sum with the negated number. -/
theorem sub_eq_add (h : y.isNaN = false) : x - y = x + -y := by
  rw [add_eq_single, unpack_neg h, ← sub_eq_add_neg]
  rfl

theorem isNaN_of_isNaN_sub (h : (x - y).isNaN = false) : x.isNaN = false := by
  rw [← Bool.not_eq_true]
  intro hx
  change (single (UnpackedFloat.sub Format.binary32 x.toModel.unpack y.toModel.unpack)).isNaN =
    false at h
  rw [unpack_of_isNaN hx] at h
  exact Bool.false_ne_true (h.symm.trans isNaN_single_notANumber)

/-- Taking away less than what can be taken away gives a number. -/
theorem isNaN_sub_eq_false (h0 : 0 ≤ y) (h : y ≤ z) (hz : (x - z).isNaN = false) :
    (x - y).isNaN = false := by
  obtain ⟨-, hny, hpos⟩ := le_iff.mp h0
  obtain ⟨-, hnz, hrank⟩ := le_iff.mp h
  rw [rank_zero] at hpos
  have hx := isNaN_of_isNaN_sub hz
  rw [sub_eq_add hny]
  rw [sub_eq_add hnz] at hz
  rcases isFinite_or_infinity (isNaN_neg hny) with hfy | ⟨huy, hry⟩
  · rcases isFinite_or_infinity hx with hfx | ⟨hux, -⟩
    · exact (rank_add hfx hfy).2
    · exact (rank_infinity_add hux hfy).2
  · rcases isFinite_or_infinity hx with hfx | ⟨hux, -⟩
    · exact (rank_add_infinity hfx huy).2
    · -- Both are the infinity that is taken away, and `z` is another number for it.
      have hlez := natAbs_rank_le hnz
      have hbits : 0 < infinityBits := by decide
      rw [rank_neg hny] at hry
      rcases isFinite_or_infinity (isNaN_neg hnz) with hfz | ⟨huz, hrz⟩
      · have hltz := natAbs_rank_lt hfz
        rw [rank_neg hnz] at hltz
        cases hs : sign (-y) <;> rw [hs, Sign.apply] at hry <;> omega
      · rw [rank_neg hnz] at hrz
        have hsign : sign (-y) = sign (-z) := by
          cases hs : sign (-y) <;> cases ht : sign (-z) <;> rw [hs, Sign.apply] at hry <;>
            rw [ht, Sign.apply] at hrz <;> first | rfl | omega
        rcases infinity_add_infinity hux huz with ⟨heq, -, -⟩ | ⟨-, hnan⟩
        · rcases infinity_add_infinity hux huy with ⟨-, -, hnum⟩ | ⟨hne, -⟩
          · exact hnum
          · exact absurd (heq.trans hsign.symm) hne
        · rw [hnan] at hz
          contradiction

/-- **Differences fall with what is taken away.** -/
theorem sub_le_sub_left (h0 : 0 ≤ y) (h : y ≤ z) (hz : (x - z).isNaN = false) :
    x - z ≤ x - y := by
  have hy := isNaN_sub_eq_false h0 h hz
  obtain ⟨hny, hnz, hrank⟩ := le_iff.mp h
  rw [sub_eq_add hny] at hy ⊢
  rw [sub_eq_add hnz] at hz ⊢
  refine add_le_add_left (le_iff.mpr ⟨isNaN_neg hnz, isNaN_neg hny, ?_⟩) hz hy
  rw [rank_neg hny, rank_neg hnz]
  omega

/-- A difference is no greater than what it was taken from. -/
theorem sub_le (h0 : 0 ≤ y) (hy : (x - y).isNaN = false) : x - y ≤ x := by
  have hx := isNaN_of_isNaN_sub hy
  obtain ⟨hsame, hzero⟩ : rank (x - 0) = rank x ∧ (x - 0).isNaN = false := by
    rw [sub_eq_add isNaN_zero]
    exact rank_add_zero hx (by rw [rank_neg isNaN_zero, rank_zero]; rfl)
  exact le_trans (sub_le_sub_left (le_self isNaN_zero) h0 hy) (le_iff.mpr ⟨hzero, hx, Int.le_of_eq hsame⟩)

/-!
## Absolute values
-/

theorem magnitude_abs (h : x.isNaN = false) :
    magnitude x.abs = magnitude x ∧ sign x.abs = .positive := by
  change magnitude (single x.toModel.unpack.abs) = _ ∧ sign (single x.toModel.unpack.abs) = _
  rcases unpack_cases h with ⟨hu, hm⟩ | ⟨hu, hm⟩ | ⟨hpos, hu, -, hm⟩
  · rw [hu, hm]
    exact single_infinity _
  · rw [hu, hm]
    exact single_zero _
  · obtain ⟨hmagnitude, hsign⟩ := single_finite .positive hpos (fits_significand x)
    have hscale := magnitude_eq_scale x
    rw [hu, UnpackedFloat.abs]
    exact ⟨by omega, hsign⟩

theorem rank_abs (h : x.isNaN = false) : rank x.abs = (rank x).natAbs := by
  obtain ⟨hm, hs⟩ := magnitude_abs h
  rw [rank_eq_apply, hm, hs, Sign.apply, magnitude_eq_natAbs_rank]

/-- Absolute values are ordered as magnitudes. -/
theorem abs_le_abs (hx : x.isNaN = false) (hy : y.isNaN = false)
    (h : (rank x).natAbs ≤ (rank y).natAbs) : x.abs ≤ y.abs := by
  refine le_iff.mpr ⟨isNaN_of_magnitude_le ?_, isNaN_of_magnitude_le ?_, ?_⟩
  · rw [(magnitude_abs hx).1, magnitude_eq_natAbs_rank]
    exact natAbs_rank_le hx
  · rw [(magnitude_abs hy).1, magnitude_eq_natAbs_rank]
    exact natAbs_rank_le hy
  · rw [rank_abs hx, rank_abs hy]
    omega

/-!
## Signs of products and quotients
-/

/-- A number on one side of zero, by its sign bit. -/
structure Signed (s : Sign) (x : Float32) : Prop where
  isNaN : x.isNaN = false
  sign : sign x = s

/-- Whatever its exponent, a nonzero number is stored with its sign. -/
theorem signed_single_finite (s : Sign) (m : Nat) (e : Int) (hpos : 0 < m) :
    Signed s (single (.finite s m e hpos)) := by
  suffices h : ∃ n ≤ infinityBits,
      (UnpackedFloat.pack Format.binary32 (.finite s m e hpos)).toNat =
        s.toBitVec.toNat * 2 ^ 31 + n by
    obtain ⟨n, hle, hn⟩ := h
    obtain ⟨hm, hs⟩ := magnitude_sign_of_toNat_eq
      (x := single (.finite s m e hpos)) (Nat.lt_of_le_of_lt hle (by decide)) hn
    exact ⟨isNaN_of_magnitude_le (by omega), hs⟩
  have hlt : ∀ k : Nat, (BitVec.ofNat 23 k).toNat < 2 ^ 23 := fun k => BitVec.isLt _
  unfold infinityBits
  simp only [UnpackedFloat.pack]
  split
  · have htop : (-1#8 : BitVec 8).toNat = 255 := rfl
    have hnil : (0 : BitVec 23).toNat = 0 := rfl
    rw [packedInfinity, toNat_packComponents, htop, hnil]
    exact ⟨255 * 2 ^ 23, by decide, by omega⟩
  · next hunder =>
      change ¬ 2 ^ 8 ≤ _ + 1 at hunder
      have hm := hlt m
      split
      · rw [toNat_packComponents, BitVec.toNat_ofNat]
        refine ⟨_, ?_, Nat.add_assoc ..⟩
        omega
      · rw [toNat_packComponents]
        refine ⟨_, ?_, Nat.add_assoc ..⟩
        change 0 * 2 ^ 23 + (BitVec.ofNat 23 m).toNat ≤ _
        omega

theorem signed_single_infinity (s : Sign) : Signed s (single (.infinity s)) :=
  ⟨(rank_single_infinity s).2, (single_infinity s).2⟩

theorem signed_single_zero (s : Sign) : Signed s (single (.zero s)) :=
  ⟨(Reads.zero s).rank_single.2, (single_zero s).2⟩

theorem signed_single_roundWithAccuracy (s : Sign) (m : Nat) (e : Int) (accuracy : Accuracy) :
    Signed s (single (roundWithAccuracy Format.binary32 s m e accuracy)) := by
  simp only [roundWithAccuracy]
  split
  · exact signed_single_zero s
  · exact signed_single_finite s _ _ _

namespace Signed

variable {s t : Sign}

/-- The sign bit is clear on and above zero, except for one of the zeros. -/
theorem le (h : Signed .positive x) : 0 ≤ x := by
  refine le_iff.mpr ⟨isNaN_zero, h.isNaN, ?_⟩
  rw [rank_zero, rank_eq_apply, h.sign, Sign.apply]
  omega

theorem ge (h : Signed .negative x) : x ≤ 0 := by
  refine le_iff.mpr ⟨h.isNaN, isNaN_zero, ?_⟩
  rw [rank_zero, rank_eq_apply, h.sign, Sign.apply]
  omega

/-- A number above zero has a clear sign bit. -/
theorem of_pos (h : 0 < x) : Signed .positive x := by
  obtain ⟨-, hnx, hpos⟩ := lt_iff.mp h
  rw [rank_zero, rank_eq_apply] at hpos
  refine ⟨hnx, ?_⟩
  cases hs : Binary32.sign x
  · rw [hs, Sign.apply] at hpos
    omega
  · rfl

theorem neg (h : Signed s x) : Signed (-s) (-x) := by
  obtain ⟨hn, rfl⟩ := h
  exact ⟨isNaN_neg hn, (magnitude_neg hn).2⟩

/-- The product of two finite numbers has the product of their signs, even if it
underflows to zero or overflows to infinity. -/
theorem mul (hx : Signed s x) (hy : Signed t y) (hfx : x.isFinite = true)
    (hfy : y.isFinite = true) : Signed (s * t) (x * y) := by
  obtain ⟨hnx, rfl⟩ := hx
  obtain ⟨hny, rfl⟩ := hy
  have hltx := (isFinite_iff x).mp hfx
  have hlty := (isFinite_iff y).mp hfy
  change Signed _ (single (UnpackedFloat.mul Format.binary32 x.toModel.unpack y.toModel.unpack))
  rcases unpack_cases hnx with ⟨-, hm⟩ | ⟨hux, -⟩ | ⟨_, hux, -, -⟩
  · omega
  · rcases unpack_cases hny with ⟨-, hm⟩ | ⟨huy, -⟩ | ⟨_, huy, -, -⟩
    · omega
    · rw [hux, huy]
      exact signed_single_zero _
    · rw [hux, huy]
      exact signed_single_zero _
  · rcases unpack_cases hny with ⟨-, hm⟩ | ⟨huy, -⟩ | ⟨_, huy, -, -⟩
    · omega
    · rw [hux, huy]
      exact signed_single_zero _
    · rw [hux, huy]
      exact signed_single_roundWithAccuracy _ _ _ _

/-- A number divided by a finite one above zero keeps its sign. -/
theorem div (hx : Signed s x) (hy : 0 < y) (hfy : y.isFinite = true) : Signed s (x / y) := by
  obtain ⟨hnx, rfl⟩ := hx
  obtain ⟨hny, hsign⟩ := of_pos hy
  obtain ⟨-, -, hpos⟩ := lt_iff.mp hy
  rw [rank_zero, rank_eq_apply, hsign, Sign.apply] at hpos
  have hlty := (isFinite_iff y).mp hfy
  have hdiv : ∀ s : Sign, s / Sign.positive = s := fun s => by cases s <;> rfl
  change Signed _ (single (UnpackedFloat.div Format.binary32 x.toModel.unpack y.toModel.unpack))
  rcases unpack_cases hny with ⟨-, hm⟩ | ⟨-, hm⟩ | ⟨_, huy, -, -⟩
  · omega
  · omega
  · rw [huy, hsign]
    rcases unpack_cases hnx with ⟨hux, -⟩ | ⟨hux, -⟩ | ⟨_, hux, -, -⟩
    · rw [hux, UnpackedFloat.div, hdiv]
      exact signed_single_infinity _
    · rw [hux, UnpackedFloat.div, hdiv]
      exact signed_single_zero _
    · rw [hux, UnpackedFloat.div, hdiv]
      exact signed_single_roundWithAccuracy _ _ _ _

end Signed

end RoadTraffic.Binary32
