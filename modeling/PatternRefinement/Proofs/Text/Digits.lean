import Mathlib.Algebra.Group.Nat.Defs
import PatternRefinement.Text.Digits

/-!
# Digits and the numbers they denote

## Main Statements

* `digitsValue_toDigits` — the decimal digits of a number denote it
* `head?_toDigits` — they do not begin with a zero, except for the number zero itself
* `toDigits_digitsValue` — digits that do not begin with a zero are those of the number they denote
* `exists_toDigits_iff` — all other digits have zeros in front of these
-/

namespace PatternRefinement.Text

theorem digitsValue_eq (digits : List Char) :
    digitsValue digits = Nat.ofDigitChars 10 digits 0 := rfl

theorem digitsValue_toDigits (n : Nat) : digitsValue (Nat.toDigits 10 n) = n :=
  Nat.ofDigitChars_ten_toDigits

theorem decimal_injective : Function.Injective decimal := by
  intro n m same
  have digits : Nat.toDigits 10 n = Nat.toDigits 10 m := String.ofList_inj.mp same
  rw [← digitsValue_toDigits n, digits, digitsValue_toDigits]

theorem digitsValue_append (front back : List Char) :
    digitsValue (front ++ back) = 10 ^ back.length * digitsValue front + digitsValue back := by
  rw [digitsValue_eq, Nat.ofDigitChars_append, Nat.ofDigitChars_eq_ofDigitChars_zero]
  rfl

theorem digitsValue_replicate_zero (count : Nat) : digitsValue (List.replicate count '0') = 0 := by
  rw [digitsValue_eq, Nat.ofDigitChars_replicate_zero, Nat.mul_zero]

theorem isDigit_of_mem_toDigits {n : Nat} {c : Char} (mem : c ∈ Nat.toDigits 10 n) :
    c.isDigit = true :=
  Nat.isDigit_of_mem_toDigits (by decide) (by decide) mem

/-- A digit is one of ten. -/
theorem digitValue_lt {c : Char} (digit : c.isDigit = true) : digitValue c < 10 := by
  simp only [Char.isDigit, Bool.and_eq_true, decide_eq_true_eq] at digit
  have upper : c.toNat ≤ 57 := digit.2
  have zero : '0'.toNat = 48 := rfl
  unfold digitValue
  omega

/-- Digits denote a number below the power of ten of their count. -/
theorem digitsValue_lt {digits : List Char} (all : ∀ c ∈ digits, c.isDigit = true) :
    digitsValue digits < 10 ^ digits.length := by
  induction digits with
  | nil => exact Nat.one_pos
  | cons c rest ih =>
      have first := digitValue_lt (all c List.mem_cons_self)
      have behind := ih fun other mem => all other (List.mem_cons_of_mem c mem)
      have split := digitsValue_append [c] rest
      have single : digitsValue [c] = digitValue c := by
        rw [digitsValue, List.foldl_cons, List.foldl_nil, Nat.mul_zero, Nat.zero_add]
      rw [single, List.singleton_append] at split
      rw [split, List.length_cons, Nat.pow_succ]
      calc 10 ^ rest.length * digitValue c + digitsValue rest
          < 10 ^ rest.length * digitValue c + 10 ^ rest.length := Nat.add_lt_add_left behind _
        _ = 10 ^ rest.length * (digitValue c + 1) := by rw [Nat.mul_succ]
        _ ≤ 10 ^ rest.length * 10 := Nat.mul_le_mul_left _ first

/-- The digits of a positive number do not begin with a zero. -/
theorem head?_toDigits {n : Nat} (positive : 0 < n) : (Nat.toDigits 10 n).head? ≠ some '0' := by
  intro zero
  cases digits : Nat.toDigits 10 n with
  | nil => exact Nat.toDigits_ne_nil digits
  | cons c rest =>
      rw [digits] at zero
      obtain rfl : c = '0' := Option.some.inj zero
      have all : ∀ c ∈ rest, c.isDigit = true := fun c mem =>
        isDigit_of_mem_toDigits (n := n) (digits ▸ List.mem_cons_of_mem _ mem)
      have value : n = digitsValue rest := by
        have split := digitsValue_append ['0'] rest
        rw [List.singleton_append, ← digits, digitsValue_toDigits] at split
        rw [split, show digitsValue ['0'] = 0 from rfl, Nat.mul_zero, Nat.zero_add]
      -- Without its zero the number would have one digit less than it has.
      cases rest with
      | nil => exact absurd positive (by rw [value]; exact Nat.lt_irrefl 0)
      | cons d rest =>
          have few : (Nat.toDigits 10 n).length ≤ (d :: rest).length :=
            (Nat.length_toDigits_le_iff (by decide) (Nat.succ_pos _)).mpr
              (value ▸ digitsValue_lt all)
          rw [digits, List.length_cons] at few
          exact Nat.lt_irrefl _ few

/-! ## The digits that denote a number -/

theorem digitsValue_zeros (zeros n : Nat) :
    digitsValue (List.replicate zeros '0' ++ Nat.toDigits 10 n) = n := by
  rw [digitsValue_append, digitsValue_replicate_zero, Nat.mul_zero, Nat.zero_add,
    digitsValue_toDigits]

theorem digitChar_digitValue {c : Char} (digit : c.isDigit = true) :
    Nat.digitChar (digitValue c) = c := by
  have bound := digitValue_lt digit
  simp only [Char.isDigit, Bool.and_eq_true, decide_eq_true_eq] at digit
  have lower : 48 ≤ c.toNat := digit.1
  have zero : '0'.toNat = 48 := rfl
  refine Char.toNat_inj.mp ?_
  rw [Nat.toNat_digitChar_of_lt_ten bound, digitValue]
  omega

/-- A digit more is a digit behind those of the number so far. -/
theorem toDigits_foldl {digits : List Char} (all : ∀ c ∈ digits, c.isDigit = true) {n : Nat}
    (positive : 0 < n) : Nat.toDigits 10 (digits.foldl (fun n c => 10 * n + digitValue c) n) =
      Nat.toDigits 10 n ++ digits := by
  induction digits generalizing n with
  | nil => exact (List.append_nil _).symm
  | cons c rest ih =>
      have digit := all c List.mem_cons_self
      have bound := digitValue_lt digit
      have one : Nat.toDigits 10 (10 * n + digitValue c) = Nat.toDigits 10 n ++ [c] := by
        rw [← Nat.toDigits_append_toDigits (by decide) positive bound,
          Nat.toDigits_of_lt_base bound, digitChar_digitValue digit]
      rw [List.foldl_cons, ih (fun d mem => all d (List.mem_cons_of_mem c mem)) (by omega), one,
        List.append_assoc, List.singleton_append]

/-- Digits that do not begin with a zero are those of the number that they denote. -/
theorem toDigits_digitsValue {digits : List Char} (nonempty : digits ≠ [])
    (all : ∀ c ∈ digits, c.isDigit = true) (head : digits.head? ≠ some '0') :
    Nat.toDigits 10 (digitsValue digits) = digits := by
  cases digits with
  | nil => exact absurd rfl nonempty
  | cons c rest =>
      have digit := all c List.mem_cons_self
      have positive : 0 < digitValue c := by
        refine Nat.pos_of_ne_zero fun zero => head ?_
        rw [← digitChar_digitValue digit, zero]
        rfl
      rw [digitsValue, List.foldl_cons, Nat.mul_zero, Nat.zero_add,
        toDigits_foldl (fun d mem => all d (List.mem_cons_of_mem c mem)) positive,
        Nat.toDigits_of_lt_base (digitValue_lt digit), digitChar_digitValue digit]
      rfl

/-- The texts that denote a number, with any zeros in front of its digits, are those that are made
of digits. -/
theorem exists_toDigits_iff {digits : List Char} :
    (∃ n zeros, digits = List.replicate zeros '0' ++ Nat.toDigits 10 n) ↔
      digits ≠ [] ∧ ∀ c ∈ digits, c.isDigit = true := by
  constructor
  · rintro ⟨n, zeros, rfl⟩
    refine ⟨fun none => Nat.toDigits_ne_nil (List.append_eq_nil_iff.mp none).2, fun c mem => ?_⟩
    rcases List.mem_append.mp mem with zero | digit
    · rw [List.eq_of_mem_replicate zero]
      rfl
    · exact isDigit_of_mem_toDigits digit
  · rintro ⟨nonempty, all⟩
    induction digits with
    | nil => exact absurd rfl nonempty
    | cons c rest ih =>
        by_cases zero : c = '0'
        · subst zero
          -- A zero alone is the number zero; otherwise it stands in front.
          by_cases last : rest = []
          · exact ⟨0, 0, by rw [last]; rfl⟩
          · obtain ⟨n, zeros, same⟩ := ih last fun d mem => all d (List.mem_cons_of_mem _ mem)
            exact ⟨n, zeros + 1, by rw [same]; rfl⟩
        · refine ⟨digitsValue (c :: rest), 0, ?_⟩
          rw [toDigits_digitsValue nonempty all fun head => zero (Option.some.inj head)]
          rfl

end PatternRefinement.Text
