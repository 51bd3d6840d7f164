import PatternRefinement.Workbench.Basic
import PatternRefinement.Session.Plan
import PatternRefinement.Session.Numbered
import PatternRefinement.Download

/-!
# Changes at a workbench

## Main Definitions

* `PlanEdit` — the changes of a plan
* `NumberedEdit` — the changes of a numbered selection
* `intoDirectory` — archives saved in a directory

## Design Notes

A change of the steps is confirmed by a message, and so is a reset of the counter. Choosing a
pattern is not: the user sees it in the session.
-/

namespace PatternRefinement

/-- Archives saved in a directory. -/
def intoDirectory (folder : String) : Delivery := Download.save folder

/-- The changes of a plan. -/
inductive PlanEdit where
  | configure (count : Nat)
  /-- As many steps as a text says. -/
  | configureFrom (raw : String)
  | toggle (index : Nat) (name : PatternName)
  | clear
  deriving Repr, DecidableEq

/-- The message that confirms a number of steps. -/
def configuredText (count : Nat) : String :=
  "Configured " ++ Text.decimal count ++ " refinement" ++ (if count = 1 then "" else "s") ++
    ". Select patterns for each step."

namespace Plan

/-- The plan with `count` steps without patterns, and the message that confirms it. -/
def configureEdited (plan : Plan) (files : FileTree) (count : Nat) (answer : Answer) :
    Except Failure (Edited Plan) :=
  match plan.configure count with
  | .ok plan => .ok ⟨plan, files, answer, some (.info (configuredText count))⟩
  | .error e => .error e

/-- Changes a plan. -/
def edit (plan : Plan) (files : FileTree) : PlanEdit → Except Failure (Edited Plan)
  | .configure count => plan.configureEdited files count .done
  | .configureFrom raw =>
    match StepCount.read raw with
    | .ok count => plan.configureEdited files count (.stepCount count)
    | .error e => .error e
  | .toggle index name =>
    match plan.toggle index name with
    | .ok (plan, chosen) => .ok ⟨plan, files, .chosen chosen, none⟩
    | .error e => .error e
  | .clear => .ok ⟨plan.clear, files, .done, some (.info "Refinements cleared.")⟩

end Plan

instance : EditableSession Plan PlanEdit where
  edit := Plan.edit

/-- The changes of a numbered selection. -/
inductive NumberedEdit where
  | toggle (name : PatternName)
  | resetCounter
  deriving Repr, DecidableEq

/-- The message that confirms a reset of the counter. -/
def counterResetText : String :=
  "Refinement counter reset to " ++ Text.decimal firstRefinement.toNat ++ "."

namespace NumberedSelection

/-- Changes a numbered selection. -/
def edit (session : NumberedSelection) (files : FileTree) :
    NumberedEdit → Except Failure (Edited NumberedSelection)
  | .toggle name =>
    match session.toggle name with
    | .ok (session, chosen) => .ok ⟨session, files, .chosen chosen, none⟩
    | .error e => .error e
  | .resetCounter =>
    let (session, files) := session.resetCounter files
    .ok ⟨session, files, .refinement session.refinement, some (.info counterResetText)⟩

end NumberedSelection

instance : EditableSession NumberedSelection NumberedEdit where
  edit := NumberedSelection.edit

end PatternRefinement
