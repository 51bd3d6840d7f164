import PatternRefinement.Session.Basic
import PatternRefinement.StepCount

/-!
# Plans

A plan is a sequence of refinement steps, each with a selection of its own. This is the
`RefinementSession`, the session of the mode with several steps.

## Main Definitions

* `RefinementStep` — the number of a step, and its selection
* `Plan` — a catalog and the steps
* `Plan.configure`, `Plan.toggle`, `Plan.clear`, `Plan.replaceCatalog` — the changes
* `Plan.isReady` — whether every step has a pattern

## Design Notes

Steps are numbered from one. A change that is refused leaves a plan as it was, so a change
gives the new plan or the failure and never both.
-/

namespace PatternRefinement

/-- One step of a plan. -/
structure RefinementStep where
  /-- The number of the step, from one on. -/
  index : Nat
  selection : Selection
  deriving Repr, DecidableEq

namespace RefinementStep

/-- A step without patterns. -/
def blank (index : Nat) : RefinementStep := ⟨index, .empty⟩

/-- Whether the step has a pattern. -/
def isValid (step : RefinementStep) : Bool := !step.selection.isEmpty

/-- The step with the selection that a catalog leaves. -/
def keep (catalog : Catalog) (step : RefinementStep) : RefinementStep :=
  { step with selection := step.selection.keep catalog }

end RefinementStep

/-- A sequence of refinement steps, and the catalog that their patterns are chosen from. -/
structure Plan where
  catalog : Catalog
  steps : List RefinementStep
  deriving Repr, DecidableEq

namespace Plan

/-- The plan without steps. -/
def ofCatalog (catalog : Catalog) : Plan := ⟨catalog, []⟩

/-- The plan without steps and without patterns to choose from. -/
def empty : Plan := ofCatalog .empty

/-- The plan with `count` steps without patterns in place of its steps. -/
def configure (plan : Plan) (count : Nat) : Except Failure Plan :=
  match StepCount.check count with
  | .ok count => .ok { plan with steps := (List.range count).map fun k => .blank (k + 1) }
  | .error e => .error e

/-- The step with a number. -/
def step? (plan : Plan) (index : Nat) : Option RefinementStep :=
  if index = 0 then none else plan.steps[index - 1]?

/-- The plan with a pattern chosen for a step, or no longer chosen; also tells whether it is
chosen now. -/
def toggle (plan : Plan) (index : Nat) (name : PatternName) : Except Failure (Plan × Bool) :=
  match plan.step? index with
  | none => .error (.stepOutOfRange index plan.steps.length)
  | some step =>
    match step.selection.toggle plan.catalog name with
    | .error e => .error e
    | .ok (selection, chosen) =>
      .ok ({ plan with steps := plan.steps.set (index - 1) { step with selection } }, chosen)

/-- The plan without its steps. -/
def clear (plan : Plan) : Plan := { plan with steps := [] }

/-- The plan under another catalog, and how many selected names it has lost. -/
def replaceCatalog (catalog : Catalog) (plan : Plan) : Plan × Nat :=
  (⟨catalog, plan.steps.map (·.keep catalog)⟩,
    plan.steps.foldl (fun lost step => lost + step.selection.lost catalog) 0)

/-- Whether there are patterns to choose from, steps, and a pattern for each of them. -/
def isReady (plan : Plan) : Bool :=
  !plan.catalog.isEmpty && !plan.steps.isEmpty && plan.steps.all (·.isValid)

/-- The selections, step by step. -/
def payload (plan : Plan) : Payload :=
  .steps (plan.steps.map (·.selection.names))

/-- In which steps a pattern is chosen. -/
def chosenIn (plan : Plan) (name : PatternName) : List Bool :=
  plan.steps.map (·.selection.contains name)

end Plan

instance : Session Plan where
  mode := .multiStep
  catalog := Plan.catalog
  replaceCatalog := Plan.replaceCatalog
  isReady := Plan.isReady
  stepCount := fun plan => plan.steps.length
  payload := Plan.payload
  recordSuccess := fun plan files => (plan, files)
  recordUpTo? := fun _ _ _ => none

end PatternRefinement
