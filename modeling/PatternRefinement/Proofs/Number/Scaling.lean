import PatternRefinement.Proofs.Number.Rounding

/-!
# Doubles times powers of ten

A decimal is read as a double by scaling its digits with a power of ten, and every step of that is
rounded.  This module bounds the steps, to tell when the double is too great to be one.

## Main Statements

* `ofNat_error` — the double nearest to a natural number is off by one part in `2 ^ 53`
* `overflowBound_le_of_mul?` — a product is too great only if the exact product is
* `exists_scale?_of_neg` — dividing by a power of ten always gives a double
* `finite_of_scale?` — scaling never gives an infinity
-/

namespace PatternRefinement

namespace Binary64

/-! ## Relative errors -/

/-- Half a unit in the last place is one part in `2 ^ 53`, or half of the least double. -/
theorem half_unit_le {n d : ℕ} (numerator : 0 < n) (denominator : 0 < d) :
    (2 : ℚ) ^ exponentOf n d / 2 ≤ n / d / 2 ^ 53 + 2 ^ leastExponent / 2 := by
  have quotientPos : (0 : ℚ) < n / d :=
    div_pos (Nat.cast_pos.mpr numerator) (Nat.cast_pos.mpr denominator)
  have leastPos := two_zpow_pos leastExponent
  rcases (exponentOf_bounds numerator denominator).2.2 with least | normal
  · rw [least]
    have : 0 ≤ (n / d : ℚ) / 2 ^ 53 := by positivity
    linarith
  · have : (2 : ℚ) ^ exponentOf n d / 2 ≤ n / d / 2 ^ 53 := by
      rw [le_div_iff₀ (by positivity)]
      linarith
    linarith

/-- A quotient from one on has all of its 53 bits. -/
theorem half_unit_le_of_one_le {n d : ℕ} (denominator : 0 < d) (large : (1 : ℚ) ≤ n / d) :
    (2 : ℚ) ^ exponentOf n d / 2 ≤ n / d / 2 ^ 53 := by
  have numerator : 0 < n := by
    rcases Nat.eq_zero_or_pos n with rfl | positive
    · rw [Nat.cast_zero, zero_div] at large
      exact absurd large (by norm_num)
    · exact positive
  obtain ⟨_, upper, normal⟩ := exponentOf_bounds numerator denominator
  rcases normal with least | normal
  · rw [least] at upper
    have tiny : (2 : ℚ) ^ 53 * 2 ^ leastExponent ≤ 1 := by
      rw [← zpow_natCast, ← zpow_add₀ two_ne_zero]
      exact zpow_le_one_of_nonpos₀ one_le_two (by decide)
    linarith
  · rw [le_div_iff₀ (by positivity)]
    linarith

/-! ## Doubles of natural numbers -/

theorem finite_ofNat (n : ℕ) : (ofNat n).Finite := by
  unfold ofNat
  cases rounded : nearest? false n 1 with
  | none => exact finite_zero false
  | some x => exact finite_of_nearest? Nat.one_pos rounded

/-- The double nearest to a natural number is off by at most one part in `2 ^ 53`. -/
theorem ofNat_error {n : ℕ} (positive : 0 < n) (bounded : (n : ℚ) < overflowBound) :
    |(ofNat n).magnitude - n| ≤ n / 2 ^ 53 := by
  have value : (n : ℚ) / (1 : ℕ) = n := by rw [Nat.cast_one, div_one]
  unfold ofNat
  cases rounded : nearest? false n 1 with
  | none =>
      have := overflowBound_le_of_nearest? Nat.one_pos rounded
      rw [value] at this
      exact absurd bounded (not_lt.mpr this)
  | some x =>
      have large : (1 : ℚ) ≤ n / (1 : ℕ) := by
        rw [value]
        exact_mod_cast positive
      have near := nearest?_error positive Nat.one_pos rounded
      have unit := half_unit_le_of_one_le Nat.one_pos large
      rw [value] at near unit
      exact near.trans unit

theorem natCast_lt_of_double_lt {n e : ℕ} (h : 2 * n + 2 ^ e < 2 ^ 54 * 2 ^ e) :
    (n : ℚ) < (2 ^ 53 - 1 / 2) * 2 ^ (e : ℤ) := by
  have cast : (2 * n + 2 ^ e : ℚ) < 2 ^ 54 * 2 ^ e := by exact_mod_cast h
  rw [zpow_natCast]
  linarith

theorem greatestPower_lt_overflowBound : ((10 ^ greatestPower : ℕ) : ℚ) < overflowBound :=
  natCast_lt_of_double_lt (e := 971) (by decide +kernel)

/-- Every power of ten up to the greatest one is below the bound. -/
theorem ten_pow_lt_overflowBound {k : ℕ} (h : k ≤ greatestPower) :
    ((10 ^ k : ℕ) : ℚ) < overflowBound := by
  refine lt_of_le_of_lt ?_ greatestPower_lt_overflowBound
  rw [Nat.cast_pow, Nat.cast_pow]
  exact pow_le_pow_right₀ (by norm_num) h

theorem powerOfTen_error {k : ℕ} (h : k ≤ greatestPower) :
    |(powerOfTen k).magnitude - 10 ^ k| ≤ 10 ^ k / 2 ^ 53 := by
  have error := ofNat_error (Nat.pow_pos (n := k) (show 0 < 10 by decide))
    (ten_pow_lt_overflowBound h)
  rwa [Nat.cast_pow, Nat.cast_ofNat] at error

/-- The double of a power of ten is greater than one half of it. -/
theorem half_le_powerOfTen {k : ℕ} (h : k ≤ greatestPower) :
    10 ^ k / 2 ≤ (powerOfTen k).magnitude := by
  have error := (abs_le.mp (powerOfTen_error h)).1
  have positive : (0 : ℚ) < 10 ^ k := by positivity
  have small : (10 : ℚ) ^ k / 2 ^ 53 ≤ 10 ^ k / 2 := by
    apply div_le_div_of_nonneg_left <;> norm_num
  linarith

theorem powerOfTen_pos {k : ℕ} (h : k ≤ greatestPower) : 0 < (powerOfTen k).magnitude := by
  have : (0 : ℚ) < 10 ^ k := by positivity
  have := half_le_powerOfTen h
  linarith

/-! ## Products and quotients -/

theorem mul?_eq (x y : Binary64) : x.mul? y =
    nearest? (x.negative != y.negative) (x.quotient.1 * y.quotient.1)
      (x.quotient.2 * y.quotient.2) := rfl

theorem div?_eq (x y : Binary64) : x.div? y =
    nearest? (x.negative != y.negative) (x.quotient.1 * y.quotient.2)
      (x.quotient.2 * y.quotient.1) := rfl

/-- A product is too great only if the exact product of the magnitudes is. -/
theorem overflowBound_le_of_mul? {x y : Binary64} (h : x.mul? y = none) :
    overflowBound ≤ x.magnitude * y.magnitude := by
  rw [mul?_eq] at h
  have bound := overflowBound_le_of_nearest?
    (Nat.mul_pos x.quotient_snd_pos y.quotient_snd_pos) h
  rwa [Nat.cast_mul, Nat.cast_mul, mul_div_mul_comm, quotient_div, quotient_div] at bound

theorem finite_of_mul? {x y z : Binary64} (h : x.mul? y = some z) : z.Finite :=
  finite_of_nearest? (Nat.mul_pos x.quotient_snd_pos y.quotient_snd_pos) h

theorem quotient_fst_pos {x : Binary64} (positive : 0 < x.magnitude) : 0 < x.quotient.1 := by
  refine shifted_fst_pos _ (Nat.pos_of_ne_zero fun zero => ?_)
  rw [magnitude, zero, Nat.cast_zero, zero_mul] at positive
  exact lt_irrefl _ positive

/-- The quotient that a division rounds. -/
theorem div?_quotient (x y : Binary64) :
    ((x.quotient.1 * y.quotient.2 : ℕ) : ℚ) / (x.quotient.2 * y.quotient.1 : ℕ) =
      x.magnitude / y.magnitude := by
  rw [Nat.cast_mul, Nat.cast_mul, ← quotient_div x, ← quotient_div y, div_div_div_eq]

theorem finite_of_div? {x y z : Binary64} (divisor : 0 < y.magnitude)
    (h : x.div? y = some z) : z.Finite :=
  finite_of_nearest? (Nat.mul_pos x.quotient_snd_pos (quotient_fst_pos divisor)) h

/-- The bound under which dividing stays. -/
def divisionBound : ℚ := 2 ^ 65

/-- A number that is not too great over one from two on is a double, and not too great either. -/
theorem exists_div? {x y : Binary64} (bounded : x.magnitude ≤ divisionBound)
    (divisor : 2 ≤ y.magnitude) :
    ∃ z, x.div? y = some z ∧ z.magnitude ≤ divisionBound := by
  have positive : 0 < y.magnitude := lt_of_lt_of_le two_pos divisor
  have denominator : 0 < x.quotient.2 * y.quotient.1 :=
    Nat.mul_pos x.quotient_snd_pos (quotient_fst_pos positive)
  have value := div?_quotient x y
  have half : x.magnitude / y.magnitude ≤ 2 ^ 64 := by
    rw [div_le_iff₀ positive]
    have : (2 : ℚ) ^ 64 * 2 ≤ 2 ^ 64 * y.magnitude :=
      mul_le_mul_of_nonneg_left divisor (by positivity)
    calc x.magnitude ≤ divisionBound := bounded
      _ = 2 ^ 64 * 2 := by rw [divisionBound]; norm_num
      _ ≤ 2 ^ 64 * y.magnitude := this
  rw [div?_eq]
  cases divided : nearest? (x.negative != y.negative) (x.quotient.1 * y.quotient.2)
      (x.quotient.2 * y.quotient.1) with
  | none =>
      have overflow := overflowBound_le_of_nearest? denominator divided
      rw [value] at overflow
      have bound : (2 : ℚ) ^ 64 < overflowBound :=
        calc (2 : ℚ) ^ 64 < (2 ^ 53 - 1 / 2) * 2 ^ (12 : ℤ) := by norm_num
          _ ≤ overflowBound :=
            mul_le_mul_of_nonneg_left (zpow_le_zpow_right₀ one_le_two (by decide)) (by norm_num)
      linarith
  | some z =>
      refine ⟨z, rfl, ?_⟩
      rcases Nat.eq_zero_or_pos (x.quotient.1 * y.quotient.2) with zero | numerator
      · rw [zero] at divided
        obtain rfl : Binary64.zero _ = z := Option.some.inj divided
        rw [magnitude, Binary64.zero, Nat.cast_zero, zero_mul, divisionBound]
        positivity
      · have near := nearest?_error numerator denominator divided
        have unit := half_unit_le numerator denominator
        rw [value] at near unit
        have upper := (abs_le.mp near).2
        have tiny : (2 : ℚ) ^ leastExponent ≤ 1 :=
          zpow_le_one_of_nonpos₀ one_le_two (by decide)
        have relative : x.magnitude / y.magnitude / 2 ^ 53 ≤ 2 ^ 64 / 2 ^ 53 :=
          div_le_div_of_nonneg_right half (by positivity)
        have sum : (2 : ℚ) ^ 64 + 2 ^ 64 / 2 ^ 53 + 1 / 2 ≤ divisionBound := by
          rw [divisionBound]
          norm_num
        linarith

/-! ## Scaling -/

theorem two_le_powerOfTen {k : ℕ} (positive : 1 ≤ k) (h : k ≤ greatestPower) :
    2 ≤ (powerOfTen k).magnitude := by
  have ten : (10 : ℚ) ^ 1 ≤ 10 ^ k := pow_le_pow_right₀ (by norm_num) positive
  have := half_le_powerOfTen h
  linarith

/-- The double of a number of at most seventeen digits lies under it. -/
theorem ofNat_le_divisionBound {n : ℕ} (few : n ≤ 10 ^ 17) :
    (ofNat n).magnitude ≤ divisionBound := by
  rcases Nat.eq_zero_or_pos n with rfl | positive
  · rw [show ofNat 0 = zero false from rfl, magnitude, zero, Nat.cast_zero, zero_mul, divisionBound]
    norm_num
  · have cast : (n : ℚ) ≤ (10 ^ 17 : ℕ) := Nat.cast_le.mpr few
    have error := (abs_le.mp (ofNat_error positive
      (lt_of_le_of_lt cast (ten_pow_lt_overflowBound (by decide))))).2
    rw [Nat.cast_pow, Nat.cast_ofNat] at cast
    rw [divisionBound]
    linarith

theorem exists_divGreatestPowers? (times : ℕ) {x : Binary64}
    (bounded : x.magnitude ≤ divisionBound) :
    ∃ y, x.divGreatestPowers? times = some y ∧ y.magnitude ≤ divisionBound := by
  induction times generalizing x with
  | zero => exact ⟨x, rfl, bounded⟩
  | succ times ih =>
      rw [divGreatestPowers?]
      split
      · exact ⟨x, rfl, bounded⟩
      · obtain ⟨y, divided, yBounded⟩ :=
          exists_div? bounded (two_le_powerOfTen (k := greatestPower) (by decide) le_rfl)
        rw [divGreatestPower?, divided]
        exact ih yBounded

/-- Dividing by a power of ten always gives a double. -/
theorem exists_scale?_of_neg {x : Binary64} {k : ℤ} (bounded : x.magnitude ≤ divisionBound)
    (negative : k < 0) : ∃ y, x.scale? k = some y := by
  rw [scale?, if_neg (not_le.mpr negative)]
  obtain ⟨y, divided, yBounded⟩ :=
    exists_divGreatestPowers? (((-k).toNat - 1) / greatestPower) bounded
  -- The power that is left lies between one and the greatest one.
  have rest := Nat.div_add_mod ((-k).toNat - 1) greatestPower
  have less := Nat.mod_lt ((-k).toNat - 1) (show 0 < greatestPower by decide)
  obtain ⟨z, last, _⟩ := exists_div? yBounded
    (two_le_powerOfTen (k := (-k).toNat - greatestPower * (((-k).toNat - 1) / greatestPower))
      (by omega) (by omega))
  refine ⟨z, ?_⟩
  dsimp only
  rw [divided]
  exact last

/-- Multiplying by a power of ten gives a double unless the exact product is too great. -/
theorem exists_scale?_of_nonneg {x : Binary64} {k : ℕ} (h : k ≤ greatestPower)
    (bounded : x.magnitude * (powerOfTen k).magnitude < overflowBound) :
    ∃ y, x.scale? k = some y := by
  rw [scale?, if_pos (Int.natCast_nonneg k), if_pos (Int.ofNat_le.mpr h), Int.toNat_natCast]
  cases product : x.mul? (powerOfTen k) with
  | none => exact absurd bounded (not_lt.mpr (overflowBound_le_of_mul? product))
  | some y => exact ⟨y, rfl⟩

/-- Scaling gives no infinity. -/
theorem finite_of_scale? {x y : Binary64} {k : ℤ} (finite : x.Finite) (h : x.scale? k = some y) :
    y.Finite := by
  rw [scale?] at h
  split_ifs at h with nonneg
  · exact finite_of_mul? h
  · obtain rfl : x = y := Option.some.inj h
    exact finite
  · obtain ⟨z, _, last⟩ := Option.bind_eq_some_iff.mp h
    refine finite_of_div? (powerOfTen_pos ?_) last
    have rest := Nat.div_add_mod ((-k).toNat - 1) greatestPower
    have less := Nat.mod_lt ((-k).toNat - 1) (show 0 < greatestPower by decide)
    omega

end Binary64

end PatternRefinement
