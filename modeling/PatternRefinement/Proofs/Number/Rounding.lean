import Mathlib.Data.Rat.Cast.Order
import Mathlib.Tactic.FieldSimp
import Mathlib.Tactic.Linarith
import Mathlib.Tactic.NormNum
import Mathlib.Tactic.Positivity
import Mathlib.Tactic.Ring
import PatternRefinement.Number.Binary64

/-!
# How far rounding to doubles goes

Doubles are computed with in natural numbers; here each is read as a rational number, and the
distance between a quotient and the double it is rounded to is bounded.

## Main Definitions

* `Binary64.magnitude` — the rational number that a double denotes, its sign left out
* `Binary64.Finite` — the bounds on a significand and on an exponent
* `Binary64.overflowBound` — the least magnitude that is rounded to nothing

## Main Statements

* `nearest?_error` — a double lies within half a unit in its last place of what it was rounded from
* `overflowBound_le_of_nearest?` — only quotients from `overflowBound` on are rounded to nothing
-/

namespace PatternRefinement

namespace Binary64

/-- The rational number that a double denotes, its sign left out. -/
def magnitude (x : Binary64) : ℚ := x.significand * (2 : ℚ) ^ x.exponent

/-- A double that 64 bits hold and that is no infinity. -/
structure Finite (x : Binary64) : Prop where
  significand_lt : x.significand < 2 ^ 53
  exponent_le : x.exponent ≤ greatestExponent

/-- Half-way between the greatest double and the next power of two. -/
def overflowBound : ℚ := (2 ^ 53 - 1 / 2) * 2 ^ greatestExponent

theorem finite_zero (negative : Bool) : (zero negative).Finite :=
  ⟨show 0 < 2 ^ 53 by decide, show leastExponent ≤ greatestExponent by decide⟩

theorem Finite.neg {x : Binary64} (h : x.Finite) : x.neg.Finite :=
  ⟨h.significand_lt, h.exponent_le⟩

theorem two_zpow_pos (k : ℤ) : (0 : ℚ) < 2 ^ k := zpow_pos two_pos k

/-! ## Shifting a quotient -/

theorem shifted_div (n d : ℕ) (k : ℤ) :
    ((shifted n d k).1 : ℚ) / (shifted n d k).2 = n / d * 2 ^ k := by
  unfold shifted
  split
  · rename_i nonneg
    obtain ⟨m, rfl⟩ := Int.eq_ofNat_of_zero_le nonneg
    simp only [Int.toNat_natCast, Nat.pow_eq, Nat.cast_mul, Nat.cast_pow, Nat.cast_ofNat,
      zpow_natCast]
    ring
  · rename_i negative
    obtain ⟨m, hm⟩ := Int.eq_ofNat_of_zero_le (show 0 ≤ -k by omega)
    obtain rfl : k = -(m : ℤ) := by omega
    simp only [neg_neg, Int.toNat_natCast, Nat.pow_eq, Nat.cast_mul, Nat.cast_pow,
      Nat.cast_ofNat, zpow_neg, zpow_natCast]
    rw [← div_div, div_eq_mul_inv]

theorem shifted_snd_pos {n d : ℕ} (k : ℤ) (positive : 0 < d) : 0 < (shifted n d k).2 := by
  unfold shifted
  split
  · exact positive
  · exact Nat.mul_pos positive (Nat.pow_pos (by decide))

theorem shifted_fst_pos {n d : ℕ} (k : ℤ) (positive : 0 < n) : 0 < (shifted n d k).1 := by
  unfold shifted
  split
  · exact Nat.mul_pos positive (Nat.pow_pos (by decide))
  · exact positive

theorem quotient_div (x : Binary64) : (x.quotient.1 : ℚ) / x.quotient.2 = x.magnitude := by
  rw [quotient, shifted_div, magnitude, Nat.cast_one, div_one]

theorem quotient_snd_pos (x : Binary64) : 0 < x.quotient.2 :=
  shifted_snd_pos _ Nat.one_pos

/-! ## Rounding a quotient to a natural number -/

/-- Rounding is off by at most one half. -/
theorem abs_roundQuotient_sub_le {n d : ℕ} (positive : 0 < d) :
    |(roundQuotient n d : ℚ) - n / d| ≤ 1 / 2 := by
  have split : d * (n / d) + n % d = n := Nat.div_add_mod n d
  have bounds : 2 * n ≤ d * (2 * roundQuotient n d) + d ∧
      d * (2 * roundQuotient n d) ≤ 2 * n + d := by
    have less : n % d < d := Nat.mod_lt n positive
    have nonneg : 0 ≤ n % d := Nat.zero_le _
    have parity : n / d % 2 = 0 ∨ n / d % 2 = 1 := Nat.mod_two_eq_zero_or_one _
    unfold roundQuotient
    dsimp only
    split_ifs
    · constructor <;> nlinarith
    · constructor <;> nlinarith
    · rcases parity with even | odd
      · rw [even]
        constructor <;> nlinarith
      · rw [odd]
        constructor <;> nlinarith
  have denominator : (0 : ℚ) < d := Nat.cast_pos.mpr positive
  obtain ⟨lower, upper⟩ := bounds
  have lower' : (2 * n : ℚ) ≤ d * (2 * roundQuotient n d) + d := by exact_mod_cast lower
  have upper' : (d * (2 * roundQuotient n d) : ℚ) ≤ 2 * n + d := by exact_mod_cast upper
  rw [abs_le]
  constructor
  · rw [neg_le_sub_iff_le_add, div_le_iff₀ denominator]
    linarith
  · rw [sub_le_iff_le_add, ← sub_le_iff_le_add', le_div_iff₀ denominator]
    linarith

/-! ## The exponent of a quotient -/

/-- A positive number lies between the power of two of its logarithm and the next one. -/
theorem log2_bounds {n : ℕ} (positive : 0 < n) :
    (2 : ℚ) ^ (Nat.log2 n : ℤ) ≤ n ∧ (n : ℚ) < 2 ^ ((Nat.log2 n : ℤ) + 1) := by
  constructor
  · rw [zpow_natCast]
    exact_mod_cast Nat.log2_self_le positive.ne'
  · have bound : n < 2 ^ (Nat.log2 n + 1) := Nat.lt_log2_self
    rw [show ((Nat.log2 n : ℤ) + 1) = ((Nat.log2 n + 1 : ℕ) : ℤ) by push_cast; rfl, zpow_natCast]
    exact_mod_cast bound

/-- By the two logarithms a quotient is known up to a factor of four. -/
theorem quotient_log2_bounds {n d : ℕ} (numerator : 0 < n) (denominator : 0 < d) {guess : ℤ}
    (guess_def : guess = (Nat.log2 n : ℤ) - Nat.log2 d - 52) :
    2 ^ 52 * 2 ^ (guess - 1) ≤ (n / d : ℚ) ∧ (n / d : ℚ) < 2 ^ 53 * 2 ^ guess := by
  obtain ⟨nLow, nHigh⟩ := log2_bounds numerator
  obtain ⟨dLow, dHigh⟩ := log2_bounds denominator
  have dPos : (0 : ℚ) < d := Nat.cast_pos.mpr denominator
  constructor
  · have split : (2 : ℚ) ^ (Nat.log2 n : ℤ) =
        2 ^ 52 * 2 ^ (guess - 1) * 2 ^ ((Nat.log2 d : ℤ) + 1) := by
      rw [show (2 : ℚ) ^ 52 = 2 ^ (52 : ℤ) by norm_num, ← zpow_add₀ two_ne_zero,
        ← zpow_add₀ two_ne_zero]
      congr 1
      omega
    rw [le_div_iff₀ dPos]
    calc 2 ^ 52 * 2 ^ (guess - 1) * (d : ℚ)
        ≤ 2 ^ 52 * 2 ^ (guess - 1) * 2 ^ ((Nat.log2 d : ℤ) + 1) :=
          mul_le_mul_of_nonneg_left dHigh.le (by have := two_zpow_pos (guess - 1); positivity)
      _ ≤ n := split ▸ nLow
  · have split : (2 : ℚ) ^ ((Nat.log2 n : ℤ) + 1) =
        2 ^ 53 * 2 ^ guess * 2 ^ (Nat.log2 d : ℤ) := by
      rw [show (2 : ℚ) ^ 53 = 2 ^ (53 : ℤ) by norm_num, ← zpow_add₀ two_ne_zero,
        ← zpow_add₀ two_ne_zero]
      congr 1
      omega
    rw [div_lt_iff₀ dPos]
    calc (n : ℚ) < 2 ^ 53 * 2 ^ guess * 2 ^ (Nat.log2 d : ℤ) := split ▸ nHigh
      _ ≤ 2 ^ 53 * 2 ^ guess * d :=
        mul_le_mul_of_nonneg_left dLow (by have := two_zpow_pos guess; positivity)

/-- The guess of an exponent is corrected where the quotient lacks a bit. -/
theorem exponentOf_eq {n d : ℕ} (denominator : 0 < d) {guess : ℤ}
    (guess_def : guess = (Nat.log2 n : ℤ) - Nat.log2 d - 52) :
    exponentOf n d =
      max leastExponent (if (n / d : ℚ) < 2 ^ 52 * 2 ^ guess then guess - 1 else guess) := by
  have shiftPos : (0 : ℚ) < (shifted n d (-guess)).2 :=
    Nat.cast_pos.mpr (shifted_snd_pos _ denominator)
  have compare : (shifted n d (-guess)).1 < Nat.pow 2 52 * (shifted n d (-guess)).2 ↔
      (n / d : ℚ) < 2 ^ 52 * 2 ^ guess := by
    have value := shifted_div n d (-guess)
    rw [← div_lt_iff₀ (two_zpow_pos guess), div_eq_mul_inv, ← zpow_neg, ← value,
      div_lt_iff₀ shiftPos]
    exact_mod_cast Iff.rfl
  unfold exponentOf
  simp only [← guess_def, compare]

/-- The exponent of a quotient leaves it at most 53 significant bits, and exactly so many unless
it is the least exponent there is. -/
theorem exponentOf_bounds {n d : ℕ} (numerator : 0 < n) (denominator : 0 < d) :
    leastExponent ≤ exponentOf n d ∧
      (n / d : ℚ) < 2 ^ 53 * 2 ^ exponentOf n d ∧
      (exponentOf n d = leastExponent ∨ 2 ^ 52 * 2 ^ exponentOf n d ≤ (n / d : ℚ)) := by
  set guess : ℤ := (Nat.log2 n : ℤ) - Nat.log2 d - 52 with guess_def
  obtain ⟨above, below⟩ := quotient_log2_bounds numerator denominator guess_def
  set exact' : ℤ := if (n / d : ℚ) < 2 ^ 52 * 2 ^ guess then guess - 1 else guess with exact_def
  have exactBounds : (n / d : ℚ) < 2 ^ 53 * 2 ^ exact' ∧ 2 ^ 52 * 2 ^ exact' ≤ (n / d : ℚ) := by
    have half : (2 : ℚ) ^ guess = 2 * 2 ^ (guess - 1) := by
      rw [zpow_sub_one₀ two_ne_zero]
      ring
    rw [exact_def]
    split_ifs with small
    · refine ⟨?_, above⟩
      rw [half] at small
      linarith
    · exact ⟨below, not_lt.mp small⟩
  rw [exponentOf_eq denominator guess_def, ← exact_def]
  refine ⟨le_max_left _ _, ?_, ?_⟩
  · refine lt_of_lt_of_le exactBounds.1 ?_
    exact mul_le_mul_of_nonneg_left
      (zpow_le_zpow_right₀ one_le_two (le_max_right _ _)) (by positivity)
  · rcases le_total exact' leastExponent with least | greater
    · exact Or.inl (max_eq_left least)
    · rw [max_eq_right greater]
      exact Or.inr exactBounds.2

/-! ## The nearest double -/

/-- What rounding a positive quotient comes to: an integral multiple of a power of two, within one
half of such a multiple, which may be too great. -/
theorem nearest?_eq (negative : Bool) {n d : ℕ} (numerator : 0 < n) (denominator : 0 < d) :
    ∃ rounded : ℕ, |(rounded : ℚ) * 2 ^ exponentOf n d - n / d| ≤ 2 ^ exponentOf n d / 2 ∧
      rounded ≤ 2 ^ 53 ∧
      nearest? negative n d =
        if rounded = 2 ^ 53 then
          if exponentOf n d + 1 ≤ greatestExponent then
            some ⟨negative, 2 ^ 52, exponentOf n d + 1⟩
          else none
        else if exponentOf n d ≤ greatestExponent then
          some ⟨negative, rounded, exponentOf n d⟩
        else none := by
  set e := exponentOf n d with e_def
  set a := (shifted n d (-e)).1 with a_def
  set b := (shifted n d (-e)).2 with b_def
  have bPos : 0 < b := shifted_snd_pos _ denominator
  have value : (a : ℚ) / b = n / d * 2 ^ (-e) := shifted_div n d (-e)
  have unit : (2 : ℚ) ^ e * 2 ^ (-e) = 1 := by
    rw [← zpow_add₀ two_ne_zero, add_neg_cancel, zpow_zero]
  have ePos := two_zpow_pos e
  have near : |(roundQuotient a b : ℚ) * 2 ^ e - n / d| ≤ 2 ^ e / 2 := by
    have close := abs_roundQuotient_sub_le (n := a) bPos
    rw [value] at close
    have factor : (roundQuotient a b : ℚ) * 2 ^ e - n / d =
        ((roundQuotient a b : ℚ) - n / d * 2 ^ (-e)) * 2 ^ e := by
      have : (n / d : ℚ) = n / d * 2 ^ (-e) * 2 ^ e := by
        rw [mul_assoc, mul_comm ((2 : ℚ) ^ (-e)), unit, mul_one]
      rw [sub_mul, ← this]
    rw [factor, abs_mul, abs_of_pos ePos]
    nlinarith
  have bound : roundQuotient a b ≤ 2 ^ 53 := by
    have upper := (exponentOf_bounds numerator denominator).2.1
    rw [← e_def] at upper
    have real : (roundQuotient a b : ℚ) * 2 ^ e < (2 ^ 53 + 1) * 2 ^ e := by
      have := (abs_le.mp near).2
      linarith
    have := lt_of_mul_lt_mul_right real ePos.le
    have : roundQuotient a b < 2 ^ 53 + 1 := by exact_mod_cast this
    omega
  refine ⟨roundQuotient a b, near, bound, ?_⟩
  unfold nearest?
  rw [if_neg numerator.ne']
  simp only [← e_def, ← a_def, ← b_def, Nat.pow_eq]
  split_ifs <;> rfl

/-- A double lies within half a unit in its last place of the quotient it was rounded from. -/
theorem nearest?_error {negative : Bool} {n d : ℕ} {x : Binary64} (numerator : 0 < n)
    (denominator : 0 < d) (h : nearest? negative n d = some x) :
    |x.magnitude - n / d| ≤ 2 ^ exponentOf n d / 2 := by
  obtain ⟨rounded, near, _, equation⟩ := nearest?_eq negative numerator denominator
  rw [equation] at h
  split_ifs at h with carried
  · obtain rfl := Option.some.inj h
    have same : magnitude ⟨negative, 2 ^ 52, exponentOf n d + 1⟩ =
        (rounded : ℚ) * 2 ^ exponentOf n d := by
      rw [magnitude, carried, zpow_add_one₀ two_ne_zero]
      push_cast
      ring
    rw [same]
    exact near
  · obtain rfl := Option.some.inj h
    exact near

/-- What a quotient is rounded to is no infinity. -/
theorem finite_of_nearest? {negative : Bool} {n d : ℕ} {x : Binary64} (denominator : 0 < d)
    (h : nearest? negative n d = some x) : x.Finite := by
  rcases Nat.eq_zero_or_pos n with rfl | numerator
  · obtain rfl : zero negative = x := Option.some.inj h
    exact finite_zero negative
  obtain ⟨rounded, _, bound, equation⟩ := nearest?_eq negative numerator denominator
  rw [equation] at h
  split_ifs at h with carried fits fits
  · obtain rfl := Option.some.inj h
    exact ⟨show 2 ^ 52 < 2 ^ 53 by decide, fits⟩
  · obtain rfl := Option.some.inj h
    exact ⟨lt_of_le_of_ne bound carried, fits⟩

/-- Only quotients from `overflowBound` on are rounded to nothing. -/
theorem overflowBound_le_of_nearest? {negative : Bool} {n d : ℕ} (denominator : 0 < d)
    (h : nearest? negative n d = none) : overflowBound ≤ n / d := by
  rcases Nat.eq_zero_or_pos n with rfl | numerator
  · cases h
  obtain ⟨rounded, near, bound, equation⟩ := nearest?_eq negative numerator denominator
  obtain ⟨_, _, normal⟩ := exponentOf_bounds numerator denominator
  -- The least exponent is no reason to overflow, so the quotient has all its 53 bits.
  have least : leastExponent + 1 ≤ greatestExponent := by decide
  rw [equation] at h
  split_ifs at h with carried fits fits
  · have exponent : greatestExponent ≤ exponentOf n d := by omega
    have lower := (abs_le.mp near).2
    rw [carried] at lower
    calc overflowBound = (2 ^ 53 - 1 / 2) * 2 ^ greatestExponent := rfl
      _ ≤ (2 ^ 53 - 1 / 2) * 2 ^ exponentOf n d :=
        mul_le_mul_of_nonneg_left (zpow_le_zpow_right₀ one_le_two exponent) (by norm_num)
      _ ≤ n / d := by push_cast at lower; linarith
  · have exponent : greatestExponent + 1 ≤ exponentOf n d := by omega
    have lower := normal.resolve_left (by omega)
    calc overflowBound ≤ 2 ^ 52 * 2 ^ (greatestExponent + 1) := by
          rw [overflowBound, zpow_add_one₀ two_ne_zero]
          have := two_zpow_pos greatestExponent
          linarith
      _ ≤ 2 ^ 52 * 2 ^ exponentOf n d :=
        mul_le_mul_of_nonneg_left (zpow_le_zpow_right₀ one_le_two exponent) (by norm_num)
      _ ≤ n / d := lower

end Binary64

end PatternRefinement
