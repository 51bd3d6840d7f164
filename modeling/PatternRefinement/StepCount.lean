import PatternRefinement.Failure
import PatternRefinement.Text.Blank

/-!
# Step counts

## Main Definitions

* `StepCount.check` — a number of steps that a session may have
* `StepCount.read` — the number of steps that a user typed

## Design Notes

A number is first read as a signed word of 64 bits. Digits that do not fit still say that the
user wants too many steps, so they count as the greatest number there is; anything else that is
no number, and every negative one, counts as zero.
-/

namespace PatternRefinement.StepCount

/-- The greatest number of steps that can be asked for. -/
def greatest : Nat := Nat.pow 2 64 - 1

/-- A number of steps, if a session may have that many. -/
def check (count : Nat) : Except Failure Nat :=
  if 1 ≤ count ∧ count ≤ maxRefinementSteps then .ok count else .error (.invalidStepCount count)

/-- The number of steps that a user typed, if a session may have that many. -/
def read (raw : String) : Except Failure Nat :=
  let text := Text.trim raw.toList
  match Text.signedWithin? 64 text with
  | some count => if 0 ≤ count then check count.toNat else .error (.invalidStepCount 0)
  | none =>
    if Text.isDigits (Text.withoutPlus text) then check greatest
    else .error (.invalidStepCount 0)

end PatternRefinement.StepCount
