/-!
# Readers

## Main Definitions

* `Reader` — what can be made of the text that is left
* `cutAt` — a text cut in two at a mark
* `hexDigit?`, `hexNumber` — hexadecimal digits and what they denote
* `separated` — items with a separator between them

## Design Notes

A reader takes the text that is left and gives what it read together with the text behind it.
Text that does not fit gives nothing; what was wrong with it is not told.
-/

namespace PatternRefinement.Text

/-- What can be made of the text that is left: a result and the text behind it. -/
abbrev Reader (α : Type) := List Char → Option (α × List Char)

/-- A text before the first occurrence of a mark, and what stands behind the mark. -/
def cutAt (mark : Char) (text : List Char) : List Char × Option (List Char) :=
  match text.dropWhile (· != mark) with
  | [] => (text, none)
  | _ :: behind => (text.takeWhile (· != mark), some behind)

/-- The value of a hexadecimal digit, of either letter case. -/
def hexDigit? (c : Char) : Option Nat :=
  if '0' ≤ c && c ≤ '9' then some (c.toNat - '0'.toNat)
  else if 'a' ≤ c && c ≤ 'f' then some (c.toNat - 'a'.toNat + 10)
  else if 'A' ≤ c && c ≤ 'F' then some (c.toNat - 'A'.toNat + 10)
  else none

/-- Reads the number that exactly `count` hexadecimal digits denote. -/
def hexNumber (count : Nat) : Reader Nat := fun text =>
  if count ≤ text.length then
    ((text.take count).mapM hexDigit?).map fun digits =>
      (digits.foldl (fun n digit => 16 * n + digit) 0, text.drop count)
  else none

/-- Hexadecimal digits are taken from the text. -/
theorem length_of_hexNumber {count : Nat} {text rest : List Char} {n : Nat}
    (h : hexNumber count text = some (n, rest)) : rest.length + count = text.length := by
  unfold hexNumber at h
  split at h
  · obtain ⟨_, -, he⟩ := Option.map_eq_some_iff.1 h
    simp only [Prod.mk.injEq] at he
    rw [← he.2, List.length_drop]
    omega
  · simp at h

/-- Reads one item or more with a separator between them; `skip` is applied to the text behind
each item. -/
def separated {α : Type} (item : Reader α) (skip : List Char → List Char) (separator : Char)
    (text : List Char) : Option (List α × List Char) :=
  match item text with
  | none => none
  | some (first, rest) =>
    match skip rest with
    | c :: behind =>
      if c = separator ∧ behind.length < text.length then
        (separated item skip separator behind).map fun (others, behind) => (first :: others, behind)
      else some ([first], c :: behind)
    | [] => some ([first], [])
  termination_by text.length
  decreasing_by rename_i h; exact h.2

end PatternRefinement.Text
