import PatternRefinement.Proofs.Json.ReadBack

/-!
# Values without doubles

## Main Definitions

* `Value.WithoutDoubles` — every number in a value is an integer

## Main Statements

* `Numeral.value?_eq_integer_iff` — which numerals denote integers
* `Value.Fits.reread_eq` — a value without doubles is read as it was written

## Design Notes

A double that is written and read may come out as its neighbour, an integer never does.  Minus zero
is a double, and so is an integer that 64 bits do not hold.
-/

namespace PatternRefinement.Json

/-- **A numeral denotes an integer exactly if it is written as one**, is not minus zero, and 64 bits
hold it. -/
theorem Numeral.value?_eq_integer_iff {numeral : Numeral} {n : Int} :
    numeral.value? = some (.integer n) ↔
      (numeral.fraction = [] ∧ numeral.exponent? = none) ∧
        if numeral.negative then
          n = -(Text.digitsValue numeral.whole : Int) ∧
            0 < Text.digitsValue numeral.whole ∧ Text.digitsValue numeral.whole ≤ 2 ^ 63
        else n = Text.digitsValue numeral.whole ∧ Text.digitsValue numeral.whole < 2 ^ 64 := by
  have noInteger : numeral.double?.map Number.double ≠ some (.integer n) := by
    cases numeral.double? <;> simp
  have bound : significandBound = 2 ^ 64 := rfl
  have lowest : Nat.pow 2 63 = 2 ^ 63 := rfl
  unfold value?
  simp only [bound, lowest, Bool.and_eq_true, List.isEmpty_iff, Option.isNone_iff_eq_none,
    decide_eq_true_eq]
  by_cases whole : numeral.fraction = [] ∧ numeral.exponent? = none
  swap
  · rw [if_neg whole]
    exact ⟨fun same => absurd same noInteger, fun same => absurd same.1 whole⟩
  rw [if_pos whole, and_iff_right whole]
  cases numeral.negative with
  | true =>
      rw [if_pos rfl, if_pos rfl]
      split
      · rename_i bounds
        rw [and_iff_left bounds]
        simp [eq_comm]
      · rename_i bounds
        exact ⟨fun same => absurd same noInteger, fun same => absurd same.2 bounds⟩
  | false =>
      rw [if_neg Bool.false_ne_true, if_neg Bool.false_ne_true]
      split
      · rename_i below
        rw [and_iff_left below]
        simp [eq_comm]
      · rename_i above
        exact ⟨fun same => absurd same noInteger, fun same => absurd same.2 above⟩

/-- Every number in a value, at any depth, is an integer. -/
inductive Value.WithoutDoubles : Value → Prop
  | null : WithoutDoubles .null
  | bool (b : Bool) : WithoutDoubles (.bool b)
  | integer (n : Int) : WithoutDoubles (.number (.integer n))
  | string (text : String) : WithoutDoubles (.string text)
  | array {items : List Value} (each : ∀ item ∈ items, WithoutDoubles item) :
      WithoutDoubles (.array items)
  | object {members : List (String × Value)} (each : ∀ member ∈ members, WithoutDoubles member.2) :
      WithoutDoubles (.object members)

theorem Value.Fits.integral {v : Value} {depth : Nat} (fits : v.Fits depth)
    (without : v.WithoutDoubles) : v.Integral depth := by
  induction fits with
  | null => exact .null
  | bool b => exact .bool b
  | number fits =>
      cases without with
      | integer n => exact .integer fits
  | string text => exact .string text
  | array _ ih =>
      cases without with
      | array each => exact .array fun item mem => ih item mem (each item mem)
  | object _ ih =>
      cases without with
      | object each => exact .object fun member mem => ih member mem (each member mem)

/-- A value without doubles is read as it was written. -/
theorem Value.Fits.reread_eq {v : Value} {depth : Nat} (fits : v.Fits depth)
    (without : v.WithoutDoubles) : v.reread = v :=
  (fits.integral without).reread_eq

end PatternRefinement.Json
