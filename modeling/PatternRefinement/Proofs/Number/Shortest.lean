import PatternRefinement.Number.Shortest
import PatternRefinement.Proofs.Number.Scaling

/-!
# The shortest decimal of a double is not too great

The decimal that a double is written as has at most seventeen digits and lies among the reals that
are rounded to the double.  Reading it again scales its digits with rounding, and what this module
shows is enough to tell that the result is no infinity: only the greatest double has a decimal near
the bound, and that one decimal is known.

## Main Definitions

* `Decimal.value` — the rational number that a decimal denotes
* `Decimal.Tame` — the bounds on a decimal

## Main Statements

* `tame_shortest` — the decimal of a double that is no infinity is within these bounds
-/

namespace PatternRefinement

namespace Decimal

/-- The rational number that a decimal denotes. -/
def value (d : Decimal) : ℚ := d.digits * (10 : ℚ) ^ d.exponent

/-- The decimal of the greatest double. -/
def greatest : Decimal := ⟨17976931348623157, 292⟩

/-- A decimal that can be read as a double although reading it is not exact. -/
structure Tame (d : Decimal) : Prop where
  digits_le : d.digits ≤ 10 ^ 17
  value_le : d.value ≤ (2 ^ 53 - 3 / 2) * 2 ^ Binary64.greatestExponent ∨ d = greatest

theorem ten_zpow_pos (k : ℤ) : (0 : ℚ) < 10 ^ k := zpow_pos (by norm_num) k

theorem quotient_div (d : Decimal) : (d.quotient.1 : ℚ) / d.quotient.2 = d.value := by
  unfold quotient value
  split
  · rename_i nonneg
    obtain ⟨m, hm⟩ := Int.eq_ofNat_of_zero_le nonneg
    rw [hm]
    simp only [Int.toNat_natCast, Nat.pow_eq, Nat.cast_mul, Nat.cast_pow, Nat.cast_ofNat,
      zpow_natCast, Nat.cast_one, div_one]
  · rename_i negative
    obtain ⟨m, hm⟩ := Int.eq_ofNat_of_zero_le (show 0 ≤ -d.exponent by omega)
    rw [show d.exponent = -(m : ℤ) by omega]
    simp only [neg_neg, Int.toNat_natCast, Nat.pow_eq, Nat.cast_pow, Nat.cast_ofNat, zpow_neg,
      zpow_natCast]
    exact div_eq_mul_inv _ _

theorem quotient_snd_pos (d : Decimal) : 0 < d.quotient.2 := by
  unfold quotient
  split
  · exact Nat.one_pos
  · exact Nat.pow_pos (by decide)

/-! ## Dropping zeros -/

/-- Zeros at the end of the digits move into the exponent: the number stays the same, and no
digits are added. -/
theorem dropZeros_spec (fuel : ℕ) (d : Decimal) :
    (dropZeros fuel d).value = d.value ∧ (dropZeros fuel d).digits ≤ d.digits := by
  induction fuel generalizing d with
  | zero => exact ⟨rfl, le_rfl⟩
  | succ fuel ih =>
      rw [dropZeros]
      split
      · rename_i even
        obtain ⟨same, fewer⟩ := ih ⟨d.digits / 10, d.exponent + 1⟩
        refine ⟨same.trans ?_, fewer.trans (Nat.div_le_self _ _)⟩
        have whole : (d.digits : ℚ) = (d.digits / 10 : ℕ) * 10 := by
          exact_mod_cast (Nat.div_mul_cancel (Nat.dvd_of_mod_eq_zero even)).symm
        rw [value, value, whole, zpow_add_one₀ (by norm_num)]
        ring
      · exact ⟨rfl, le_rfl⟩

theorem normalised_spec (d : Decimal) :
    d.normalised.value = d.value ∧ d.normalised.digits ≤ d.digits := by
  unfold normalised
  split
  · exact ⟨rfl, le_rfl⟩
  · exact dropZeros_spec _ d

end Decimal

namespace Binary64

/-! ## The power of ten of the leading digit -/

/-- A number is at least the power of ten that its digits say. -/
theorem ten_pow_length_le {m : ℕ} (positive : 0 < m) :
    10 ^ ((Nat.toDigits 10 m).length - 1) ≤ m := by
  by_cases single : (Nat.toDigits 10 m).length - 1 = 0
  · rw [single]
    exact positive
  · by_contra fewer
    have := (Nat.length_toDigits_le_iff (by decide) (Nat.pos_of_ne_zero single)).mpr
      (not_le.mp fewer)
    omega

/-- A positive quotient is below the power of ten behind the one of its leading digit. -/
theorem lt_leadingPower {n d : ℕ} (numerator : 0 < n) (denominator : 0 < d) :
    (n / d : ℚ) < 10 ^ (leadingPower n d + 1) := by
  have dPos : (0 : ℚ) < d := Nat.cast_pos.mpr denominator
  have nPos : (0 : ℚ) < n := Nat.cast_pos.mpr numerator
  have below (m : ℕ) : m < 10 ^ (Nat.toDigits 10 m).length :=
    (Nat.length_toDigits_le_iff (by decide) Nat.length_toDigits_pos).mp le_rfl
  unfold leadingPower
  split
  · -- The whole part has as many digits as the power says.
    have whole := (Nat.div_lt_iff_lt_mul denominator).mp (below (n / d))
    rw [sub_add_cancel, zpow_natCast, div_lt_iff₀ dPos]
    exact_mod_cast whole
  · have lengthPos : 0 < (Nat.toDigits 10 (d / n)).length := Nat.length_toDigits_pos
    dsimp only
    split
    · rename_i few
      -- The reciprocal has `length` digits, so it is at least a power of ten.
      set length := (Nat.toDigits 10 (d / n)).length
      have whole : 0 < d / n := Nat.div_pos (by omega) numerator
      have product : 10 ^ (length - 1) * n ≤ d :=
        (Nat.le_div_iff_mul_le numerator).mp (ten_pow_length_le whole)
      have cast : (10 : ℚ) ^ (length - 1) * n ≤ d := by exact_mod_cast product
      rw [zpow_add_one₀ (by norm_num), zpow_neg, zpow_natCast, div_lt_iff₀ dPos]
      have power : (0 : ℚ) < 10 ^ (length - 1) := by positivity
      rw [mul_assoc, inv_mul_eq_div, lt_div_iff₀ power]
      linarith
    · rename_i many
      set length := (Nat.toDigits 10 (d / n)).length
      have product : n * 10 ^ (length - 1) < d := by
        simpa only [Nat.pow_eq, not_le] using many
      have cast : (n : ℚ) * 10 ^ (length - 1) < d := by exact_mod_cast product
      rw [show (-(length : ℤ) + 1) = -((length - 1 : ℕ) : ℤ) by omega, zpow_neg, zpow_natCast,
        div_lt_iff₀ dPos, inv_mul_eq_div, lt_div_iff₀ (by positivity)]
      exact cast

/-! ## The candidates -/

/-- The quotient of a double on a decimal grid. -/
theorem scaled_div (n d : ℕ) (power : ℤ) :
    (((if 0 ≤ power then (n, d * Nat.pow 10 power.toNat)
        else (n * Nat.pow 10 (-power).toNat, d)).1 : ℕ) : ℚ) /
      ((if 0 ≤ power then (n, d * Nat.pow 10 power.toNat)
        else (n * Nat.pow 10 (-power).toNat, d)).2 : ℕ) = n / d * 10 ^ (-power) := by
  split
  · rename_i nonneg
    obtain ⟨m, rfl⟩ := Int.eq_ofNat_of_zero_le nonneg
    simp only [Int.toNat_natCast, Nat.pow_eq, Nat.cast_mul, Nat.cast_pow, Nat.cast_ofNat, zpow_neg,
      zpow_natCast]
    rw [← div_div, div_eq_mul_inv]
  · rename_i negative
    obtain ⟨m, hm⟩ := Int.eq_ofNat_of_zero_le (show 0 ≤ -power by omega)
    rw [hm]
    simp only [Int.toNat_natCast, Nat.pow_eq, Nat.cast_mul, Nat.cast_pow, Nat.cast_ofNat,
      zpow_natCast]
    ring

/-- The greatest real that is rounded to a double. -/
def upperEnd (x : Binary64) : ℚ := (4 * x.significand + 2) * 2 ^ (x.exponent - 2)

/-- Whether a decimal lies among the reals that are rounded to a double. -/
def inside (x : Binary64) (candidate : Decimal) : Bool :=
  let (low, _, high, closed) := x.interval
  let unit := x.exponent - 2
  let (cn, cd) := candidate.quotient
  let (ln, ld) := shifted low 1 unit
  let (hn, hd) := shifted high 1 unit
  if closed then ln * cd ≤ cn * ld && cn * hd ≤ hn * cd
  else ln * cd < cn * ld && cn * hd < hn * cd

theorem value_le_of_inside {x : Binary64} {candidate : Decimal}
    (h : x.inside candidate = true) : candidate.value ≤ x.upperEnd := by
  set high := shifted (4 * x.significand + 2) 1 (x.exponent - 2) with high_def
  have order : candidate.quotient.1 * high.2 ≤ high.1 * candidate.quotient.2 := by
    unfold inside interval at h
    dsimp only at h
    split at h
    · exact of_decide_eq_true (Bool.and_eq_true_iff.mp h).2
    · exact le_of_lt (of_decide_eq_true (Bool.and_eq_true_iff.mp h).2)
  have cast : (candidate.quotient.1 * high.2 : ℚ) ≤ high.1 * candidate.quotient.2 := by
    exact_mod_cast order
  have highPos : (0 : ℚ) < high.2 := Nat.cast_pos.mpr (shifted_snd_pos _ Nat.one_pos)
  have candidatePos : (0 : ℚ) < candidate.quotient.2 :=
    Nat.cast_pos.mpr candidate.quotient_snd_pos
  have highValue : (high.1 / high.2 : ℚ) = x.upperEnd := by
    rw [high_def, shifted_div, upperEnd]
    push_cast
    ring
  rw [← highValue, ← candidate.quotient_div, div_le_div_iff₀ candidatePos highPos]
  exact cast

/-- The one of two neighbours that is chosen, from whether each of them may be.  If both may, it is
the nearer one, where `n / m` is how far the lower one lies below, or the one with even digits. -/
def choice? (lower upper : Decimal) (n m : ℕ) : Bool → Bool → Option Decimal
  | false, false => none
  | true, false => some lower
  | false, true => some upper
  | true, true =>
    if 2 * n < m then some lower
    else if m < 2 * n then some upper
    else if lower.digits % 2 = 0 then some lower else some upper

theorem choice?_eq_some {lower upper d : Decimal} {n m : ℕ} {first second : Bool}
    (h : choice? lower upper n m first second = some d) :
    (d = lower ∧ first = true) ∨ (d = upper ∧ second = true) := by
  cases first <;> cases second <;> rw [choice?] at h
  · cases h
  · exact Or.inr ⟨(Option.some.inj h).symm, rfl⟩
  · exact Or.inl ⟨(Option.some.inj h).symm, rfl⟩
  · split_ifs at h
    · exact Or.inl ⟨(Option.some.inj h).symm, rfl⟩
    · exact Or.inr ⟨(Option.some.inj h).symm, rfl⟩
    · exact Or.inl ⟨(Option.some.inj h).symm, rfl⟩
    · exact Or.inr ⟨(Option.some.inj h).symm, rfl⟩

/-- A candidate with some digits has no more than those, and lies among the reals that are rounded
to the double. -/
theorem withDigits?_spec {x : Binary64} {count : ℕ} {d : Decimal}
    (positive : 0 < x.significand) (h : x.withDigits? count = some d) :
    d.digits ≤ 10 ^ count ∧ x.inside d = true := by
  set q := shifted (4 * x.significand) 1 (x.exponent - 2) with q_def
  set power := leadingPower q.1 q.2 + 1 - (count : ℤ) with power_def
  set scaled : ℕ × ℕ := if 0 ≤ power then (q.1, q.2 * Nat.pow 10 power.toNat)
    else (q.1 * Nat.pow 10 (-power).toNat, q.2) with scaled_def
  have numerator : 0 < q.1 := shifted_fst_pos _ (by omega)
  have denominator : 0 < q.2 := shifted_snd_pos _ Nat.one_pos
  have scaledPos : 0 < scaled.2 := by
    rw [scaled_def]
    split
    · exact Nat.mul_pos denominator (Nat.pow_pos (by decide))
    · exact denominator
  have floor : scaled.1 / scaled.2 < 10 ^ count := by
    have value := scaled_div q.1 q.2 power
    rw [← scaled_def] at value
    have bound : (scaled.1 / scaled.2 : ℚ) < 10 ^ count := by
      rw [value]
      calc (q.1 / q.2 : ℚ) * 10 ^ (-power)
          < 10 ^ (leadingPower q.1 q.2 + 1) * 10 ^ (-power) :=
            mul_lt_mul_of_pos_right (lt_leadingPower numerator denominator)
              (Decimal.ten_zpow_pos _)
        _ = 10 ^ count := by
            rw [← zpow_add₀ (by norm_num), ← zpow_natCast]
            congr 1
            omega
    rw [div_lt_iff₀ (Nat.cast_pos.mpr scaledPos)] at bound
    exact (Nat.div_lt_iff_lt_mul scaledPos).mpr (by exact_mod_cast bound)
  set lower : Decimal := ⟨scaled.1 / scaled.2, power⟩ with lower_def
  set upper : Decimal := ⟨scaled.1 / scaled.2 + 1, power⟩ with upper_def
  have equation : x.withDigits? count =
      choice? lower upper (scaled.1 % scaled.2) scaled.2 (x.inside lower) (x.inside upper) := rfl
  rw [equation] at h
  rcases choice?_eq_some h with ⟨rfl, inside⟩ | ⟨rfl, inside⟩
  · exact ⟨floor.le, inside⟩
  · exact ⟨floor, inside⟩

/-! ## The shortest decimal -/

/-- The greatest double is written with seventeen digits. -/
theorem shortest_greatest (negative : Bool) :
    shortest ⟨negative, 2 ^ 53 - 1, greatestExponent⟩ = Decimal.greatest := by
  cases negative <;> decide +kernel

/-- Among the reals that are rounded to another double than the greatest, none comes near the
bound. -/
theorem upperEnd_le {x : Binary64} (finite : x.Finite)
    (other : ¬(x.significand = 2 ^ 53 - 1 ∧ x.exponent = greatestExponent)) :
    x.upperEnd ≤ (2 ^ 53 - 3 / 2) * 2 ^ greatestExponent := by
  have bound : x.significand ≤ 2 ^ 53 - 1 := Nat.le_pred_of_lt finite.significand_lt
  have unit (e : ℤ) : (2 : ℚ) ^ (e - 2) = 2 ^ e / 4 := by
    rw [zpow_sub₀ two_ne_zero]
    norm_num
  rw [upperEnd, unit]
  rcases finite.exponent_le.lt_or_eq with smaller | top
  · -- One power of two less halves everything.
    have half : (2 : ℚ) ^ x.exponent ≤ 2 ^ greatestExponent / 2 := by
      rw [div_eq_mul_inv, ← zpow_sub_one₀ two_ne_zero]
      exact zpow_le_zpow_right₀ one_le_two (by omega)
    have cast : (x.significand : ℚ) ≤ 2 ^ 53 - 1 := by
      have : x.significand + 1 ≤ 2 ^ 53 := finite.significand_lt
      have : (x.significand + 1 : ℚ) ≤ 2 ^ 53 := by exact_mod_cast this
      linarith
    have := two_zpow_pos greatestExponent
    have := two_zpow_pos x.exponent
    nlinarith
  · have smaller : x.significand + 2 ≤ 2 ^ 53 := by
      have : x.significand ≠ 2 ^ 53 - 1 := fun same => other ⟨same, top⟩
      have := finite.significand_lt
      omega
    have cast : (x.significand + 2 : ℚ) ≤ 2 ^ 53 := by exact_mod_cast smaller
    rw [top]
    have := two_zpow_pos greatestExponent
    nlinarith

theorem tame_zero : Decimal.Tame ⟨0, 0⟩ where
  digits_le := Nat.zero_le _
  value_le := by
    refine Or.inl ?_
    have := two_zpow_pos greatestExponent
    rw [Decimal.value, Nat.cast_zero, zero_mul]
    nlinarith

/-- **The decimal of a double that is no infinity can be read as a double again.** -/
theorem tame_shortest {x : Binary64} (finite : x.Finite) : x.shortest.Tame := by
  by_cases top : x.significand = 2 ^ 53 - 1 ∧ x.exponent = greatestExponent
  · have same : x.shortest = Decimal.greatest := by
      obtain ⟨negative, significand, exponent⟩ := x
      obtain ⟨rfl, rfl⟩ := top
      exact shortest_greatest negative
    rw [same]
    exact ⟨by decide, Or.inr rfl⟩
  unfold shortest
  split
  · exact tame_zero
  · rename_i positive
    have positive : 0 < x.significand := by
      simpa [isZero, Nat.pos_iff_ne_zero] using positive
    cases found : (List.range 17).findSome? fun k => x.withDigits? (k + 1) with
    | none =>
        rw [Option.getD_none]
        exact tame_zero
    | some d =>
        obtain ⟨k, mem, chosen⟩ := List.exists_of_findSome?_eq_some found
        obtain ⟨digits, insideX⟩ := withDigits?_spec positive chosen
        obtain ⟨same, fewer⟩ := d.normalised_spec
        have few : d.digits ≤ 10 ^ 17 :=
          digits.trans (Nat.pow_le_pow_right (by decide) (List.mem_range.mp mem))
        rw [Option.getD_some]
        refine ⟨fewer.trans few, Or.inl ?_⟩
        rw [same]
        exact (value_le_of_inside insideX).trans (upperEnd_le finite top)

/-! ## Reading a decimal again -/

theorem ten_pow_le {a b : ℕ} (h : a ≤ b) : 10 ^ a ≤ 10 ^ b := Nat.pow_le_pow_right (by decide) h

/-- The digits of a tame decimal that two rounding errors could lift over the bound belong to one
of two decimals. -/
theorem digits_of_large {digits k : ℕ} (few : digits ≤ 10 ^ 17)
    (lower : 2 ^ 54 * 2 ^ 971 ≤ 2 * (digits * 10 ^ k) + 5 * 2 ^ 971)
    (upper : 2 * (digits * 10 ^ k) + 3 * 2 ^ 971 ≤ 2 ^ 54 * 2 ^ 971) :
    k = 292 ∧ (digits = 17976931348623155 ∨ digits = 17976931348623156) := by
  have enough : 292 ≤ k := by
    by_contra less
    have power : 10 ^ k ≤ 10 ^ 291 := ten_pow_le (by omega)
    have product : digits * 10 ^ k ≤ 10 ^ 17 * 10 ^ 291 := Nat.mul_le_mul few power
    have small : 2 * (10 ^ 17 * 10 ^ 291) + 5 * 2 ^ 971 < 2 ^ 54 * 2 ^ 971 := by decide +kernel
    omega
  obtain ⟨j, rfl⟩ := Nat.exists_eq_add_of_le' enough
  rw [Nat.pow_add, ← Nat.mul_assoc digits] at lower upper
  have above : 17976931348623154 < digits * 10 ^ j := by
    by_contra notAbove
    have product := Nat.mul_le_mul_right (10 ^ 292) (not_lt.mp notAbove)
    have small : 2 * (17976931348623154 * 10 ^ 292) + 5 * 2 ^ 971 < 2 ^ 54 * 2 ^ 971 := by
      decide +kernel
    omega
  have below : digits * 10 ^ j < 17976931348623157 := by
    by_contra notBelow
    have product := Nat.mul_le_mul_right (10 ^ 292) (not_lt.mp notBelow)
    have great : 2 ^ 54 * 2 ^ 971 < 2 * (17976931348623157 * 10 ^ 292) + 3 * 2 ^ 971 := by
      decide +kernel
    omega
  -- Neither of the two numbers left ends in a zero, so no power of ten is taken out of it.
  cases j with
  | zero => exact ⟨Nat.zero_add 292, by omega⟩
  | succ j =>
      rw [Nat.pow_succ, ← Nat.mul_assoc] at above below
      omega

theorem two_mul_le_of_natCast_le {n e : ℕ} (h : (n : ℚ) ≤ (2 ^ 53 - 3 / 2) * 2 ^ (e : ℤ)) :
    2 * n + 3 * 2 ^ e ≤ 2 ^ 54 * 2 ^ e := by
  rw [zpow_natCast] at h
  have cast : (2 * n + 3 * 2 ^ e : ℚ) ≤ 2 ^ 54 * 2 ^ e := by linarith
  exact_mod_cast cast

theorem natCast_lt_of_two_mul_lt {n e : ℕ} (h : 2 * n + 5 * 2 ^ e < 2 ^ 54 * 2 ^ e) :
    (n : ℚ) < (2 ^ 53 - 5 / 2) * 2 ^ (e : ℤ) := by
  have cast : (2 * n + 5 * 2 ^ e : ℚ) < 2 ^ 54 * 2 ^ e := by exact_mod_cast h
  rw [zpow_natCast]
  linarith

/-- Two rounding errors do not lift a product over the bound that is five halves of a unit below
the next power of two. -/
theorem mul_lt_overflowBound {a b x y : ℚ} (xPos : 0 ≤ x) (yNonneg : 0 ≤ b)
    (aNear : a ≤ x + x / 2 ^ 53) (bNear : b ≤ y + y / 2 ^ 53)
    (product : x * y < (2 ^ 53 - 5 / 2) * 2 ^ greatestExponent) : a * b < overflowBound := by
  have unit := two_zpow_pos greatestExponent
  have factor : (0 : ℚ) ≤ x + x / 2 ^ 53 := by positivity
  calc a * b ≤ (x + x / 2 ^ 53) * (y + y / 2 ^ 53) :=
        mul_le_mul aNear bNear yNonneg factor
    _ = x * y * (1 + 1 / 2 ^ 53) ^ 2 := by ring
    _ ≤ (2 ^ 53 - 5 / 2) * 2 ^ greatestExponent * (1 + 1 / 2 ^ 53) ^ 2 :=
        mul_le_mul_of_nonneg_right product.le (by positivity)
    _ = (2 ^ 53 - 5 / 2) * (1 + 1 / 2 ^ 53) ^ 2 * 2 ^ greatestExponent := by ring
    _ < (2 ^ 53 - 1 / 2) * 2 ^ greatestExponent :=
        mul_lt_mul_of_pos_right (by norm_num) unit

/-- **The digits of a tame decimal can be scaled with its power of ten.**  Away from the bound the
rounding errors do not matter, and close to it there are three decimals, which are computed. -/
theorem exists_scale?_of_tame {digits k : ℕ} (positive : 0 < digits)
    (tame : Decimal.Tame ⟨digits, k⟩) : ∃ y, (ofNat digits).scale? k = some y := by
  rcases tame.value_le with bound | greatest
  · have bound : 2 * (digits * 10 ^ k) + 3 * 2 ^ 971 ≤ 2 ^ 54 * 2 ^ 971 := by
      refine two_mul_le_of_natCast_le (e := 971) (le_of_eq_of_le ?_ bound)
      rw [Decimal.value, zpow_natCast, Nat.cast_mul, Nat.cast_pow, Nat.cast_ofNat]
    by_cases large : 2 ^ 54 * 2 ^ 971 ≤ 2 * (digits * 10 ^ k) + 5 * 2 ^ 971
    · obtain ⟨rfl, rfl | rfl⟩ := digits_of_large tame.digits_le large bound
      · exact Option.isSome_iff_exists.mp (by decide +kernel)
      · exact Option.isSome_iff_exists.mp (by decide +kernel)
    · have fits : k ≤ greatestPower := by
        by_contra more
        have power : 10 ^ 309 ≤ 10 ^ k := ten_pow_le (not_le.mp more)
        have product : 1 * 10 ^ k ≤ digits * 10 ^ k := Nat.mul_le_mul_right _ positive
        have great : 2 ^ 54 * 2 ^ 971 < 2 * 10 ^ 309 := by decide +kernel
        omega
      have product : ((digits * 10 ^ k : ℕ) : ℚ) < (2 ^ 53 - 5 / 2) * 2 ^ greatestExponent :=
        natCast_lt_of_two_mul_lt (e := 971) (not_le.mp large)
      have below : (digits : ℚ) < overflowBound := by
        have : (digits : ℚ) ≤ (10 ^ 17 : ℕ) := Nat.cast_le.mpr tame.digits_le
        exact lt_of_le_of_lt this (ten_pow_lt_overflowBound (by decide))
      rw [Nat.cast_mul, Nat.cast_pow, Nat.cast_ofNat] at product
      have digitsNear := (abs_le.mp (ofNat_error positive below)).2
      have powerNear := (abs_le.mp (powerOfTen_error fits)).2
      exact exists_scale?_of_nonneg fits (mul_lt_overflowBound (Nat.cast_nonneg _)
        (powerOfTen_pos fits).le (by linarith) (by linarith) product)
  · obtain ⟨rfl, same⟩ := Decimal.mk.inj greatest
    obtain rfl : k = 292 := by omega
    exact Option.isSome_iff_exists.mp (by decide +kernel)

end Binary64

end PatternRefinement
