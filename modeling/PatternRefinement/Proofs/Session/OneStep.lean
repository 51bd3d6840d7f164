import PatternRefinement.Session.Numbered
import PatternRefinement.Session.Plan

/-!
# Plans of one step

A plan of one step and a numbered selection hold the same thing, one selection, and each has its own
rules for it.  This module shows that nobody can tell the two apart by what they answer, as long as
nobody looks at the number.

## Main Definitions

* `SelectionChange`, `SelectionReply` — what can be done to a session with one selection, and what
  it answers
* `respond`, `respondEach` — the session after a change, and after many, with the answers
* `SameChoice` — the same patterns are chosen from the same catalog

## Main Statements

* `respondEach_alike` — sessions that answer every change alike answer all changes alike
* `SameChoice.respond` — one change
* `one_step_plan_answers_alike` — any number of changes

## Design Notes

The two sessions differ in how a pattern is named in them, by a step or without one, and in nothing
else that a change needs.  So there is one `respond` for all sessions, which is told how a pattern
is chosen.
-/

namespace PatternRefinement

/-! ## Changes and answers -/

/-- What can be done to a session with one selection, whichever kind it is of. -/
inductive SelectionChange where
  | toggle (name : PatternName)
  | replaceCatalog (catalog : Catalog)
  /-- An archive has been saved, and these are the files then. -/
  | recordSuccess (files : FileTree)

/-- What a session answers to a change. -/
inductive SelectionReply where
  /-- Whether the pattern is chosen now, or why it was refused. -/
  | toggled (result : Except Failure Bool)
  /-- How many selected names the session has lost. -/
  | lost (count : Nat)
  | recorded

section Respond

variable {S : Type} [Session S]

/-- The session after a change, and its answer.  A toggle that is refused leaves it as it is. -/
def respond (toggle : S → PatternName → Except Failure (S × Bool)) (session : S) :
    SelectionChange → S × SelectionReply
  | .toggle name =>
    match toggle session name with
    | .ok (next, chosen) => (next, .toggled (.ok chosen))
    | .error failure => (session, .toggled (.error failure))
  | .replaceCatalog catalog =>
    ((Session.replaceCatalog catalog session).1, .lost (Session.replaceCatalog catalog session).2)
  | .recordSuccess files => ((Session.recordSuccess session files).1, .recorded)

/-- The session after changes, one after the other, and its answers. -/
def respondEach (toggle : S → PatternName → Except Failure (S × Bool)) (session : S) :
    List SelectionChange → S × List SelectionReply
  | [] => (session, [])
  | change :: rest =>
    let next := respond toggle session change
    let last := respondEach toggle next.1 rest
    (last.1, next.2 :: last.2)

end Respond

/-- **Sessions that answer every change alike, and are alike again, answer all changes alike.** -/
theorem respondEach_alike {S T : Type} [Session S] [Session T]
    {toggle : S → PatternName → Except Failure (S × Bool)}
    {toggle' : T → PatternName → Except Failure (T × Bool)} {Alike : S → T → Prop}
    (step : ∀ {session other}, Alike session other → ∀ change,
      Alike (respond toggle session change).1 (respond toggle' other change).1 ∧
        (respond toggle session change).2 = (respond toggle' other change).2)
    {session : S} {other : T} (alike : Alike session other) (changes : List SelectionChange) :
    Alike (respondEach toggle session changes).1 (respondEach toggle' other changes).1 ∧
      (respondEach toggle session changes).2 = (respondEach toggle' other changes).2 := by
  induction changes generalizing session other with
  | nil => exact ⟨alike, rfl⟩
  | cons change rest ih =>
      obtain ⟨still, answer⟩ := step alike change
      obtain ⟨last, answers⟩ := ih still
      exact ⟨last, List.cons_eq_cons.mpr ⟨answer, answers⟩⟩

/-! ## One step and no number -/

/-- A plan of one step and a numbered selection in which the same patterns are chosen from the same
catalog. -/
structure SameChoice (plan : Plan) (session : NumberedSelection) : Prop where
  catalog_eq : plan.catalog = session.catalog
  steps_eq : plan.steps = [⟨1, session.selection⟩]

namespace SameChoice

variable {plan : Plan} {session : NumberedSelection}

/-- A plan that is configured with one step has the choice of a session that was just loaded. -/
theorem of_configure (plan : Plan) (counter : CounterStore) (files : FileTree) :
    ∃ start, plan.configure 1 = .ok start ∧
      SameChoice start (.load plan.catalog counter files) :=
  ⟨{ plan with steps := [.blank 1] }, rfl, rfl, rfl⟩

/-- A pattern is chosen or refused in the selection, and both sessions take over what comes of
it. -/
theorem respond_toggle (same : SameChoice plan session) (name : PatternName) :
    SameChoice (respond (·.toggle 1) plan (.toggle name)).1
        (respond NumberedSelection.toggle session (.toggle name)).1 ∧
      (respond (·.toggle 1) plan (.toggle name)).2 =
        (respond NumberedSelection.toggle session (.toggle name)).2 := by
  obtain ⟨catalog_eq, steps_eq⟩ := same
  have found : plan.step? 1 = some ⟨1, session.selection⟩ := by
    rw [Plan.step?, steps_eq]
    rfl
  simp only [respond, Plan.toggle, found, catalog_eq, NumberedSelection.toggle]
  cases session.selection.toggle session.catalog name with
  | error failure => exact ⟨⟨catalog_eq, steps_eq⟩, rfl⟩
  | ok result =>
      refine ⟨⟨rfl, ?_⟩, rfl⟩
      rw [steps_eq]
      rfl

/-- Both sessions lose the names that another catalog does not offer. -/
theorem respond_replaceCatalog (same : SameChoice plan session) (catalog : Catalog) :
    SameChoice (respond (·.toggle 1) plan (.replaceCatalog catalog)).1
        (respond NumberedSelection.toggle session (.replaceCatalog catalog)).1 ∧
      (respond (·.toggle 1) plan (.replaceCatalog catalog)).2 =
        (respond NumberedSelection.toggle session (.replaceCatalog catalog)).2 := by
  constructor
  · refine ⟨rfl, ?_⟩
    show plan.steps.map (·.keep catalog) = [⟨1, session.selection.keep catalog⟩]
    rw [same.steps_eq]
    rfl
  · -- The names that a plan loses are counted step by step, and here there is one step.
    show SelectionReply.lost
        (plan.steps.foldl (fun lost step => lost + step.selection.lost catalog) 0) =
      SelectionReply.lost (session.selection.lost catalog)
    rw [same.steps_eq]
    exact congrArg SelectionReply.lost (Nat.zero_add _)

/-- **Both sessions answer a change alike, and the choice is the same again.** -/
theorem respond (same : SameChoice plan session) (change : SelectionChange) :
    SameChoice (PatternRefinement.respond (·.toggle 1) plan change).1
        (PatternRefinement.respond NumberedSelection.toggle session change).1 ∧
      (PatternRefinement.respond (·.toggle 1) plan change).2 =
        (PatternRefinement.respond NumberedSelection.toggle session change).2 := by
  cases change with
  | toggle name => exact same.respond_toggle name
  | replaceCatalog catalog => exact same.respond_replaceCatalog catalog
  | recordSuccess files => exact ⟨⟨same.catalog_eq, same.steps_eq⟩, rfl⟩

/-! ### What can be seen of a choice -/

theorem selections_eq (same : SameChoice plan session) :
    plan.steps.map (·.selection) = [session.selection] := by
  rw [same.steps_eq]
  rfl

/-- A plan asks that each of its steps has a pattern, and here that is the selection. -/
theorem isReady_eq (same : SameChoice plan session) : plan.isReady = session.isReady := by
  simp [Plan.isReady, NumberedSelection.isReady, RefinementStep.isValid, same.catalog_eq,
    same.steps_eq]

theorem stepCount_eq (same : SameChoice plan session) :
    Session.stepCount plan = Session.stepCount session := by
  show plan.steps.length = 1
  rw [same.steps_eq]
  rfl

theorem payload_eq (same : SameChoice plan session) :
    plan.payload = .steps [session.selection.names] := by
  rw [Plan.payload, same.steps_eq]
  rfl

end SameChoice

/-- **A plan of one step answers like a numbered selection.**  A plan is configured with one step,
and a numbered selection is loaded under the same catalog.  Then, whatever is done to both, they
give the same answers, and after each change they have the same catalog and the same selection, are
ready at the same time, count the same steps, and ask for the same patterns. -/
theorem one_step_plan_answers_alike (plan : Plan) (counter : CounterStore) (files : FileTree) :
    ∃ start, plan.configure 1 = .ok start ∧ ∀ changes,
      let stepped := respondEach (·.toggle 1) start changes
      let numbered := respondEach NumberedSelection.toggle
        (.load plan.catalog counter files) changes
      stepped.2 = numbered.2 ∧
        stepped.1.catalog = numbered.1.catalog ∧
        stepped.1.steps.map (·.selection) = [numbered.1.selection] ∧
        stepped.1.isReady = numbered.1.isReady ∧
        Session.stepCount stepped.1 = Session.stepCount numbered.1 ∧
        ∃ names, stepped.1.payload = .steps [names] ∧
          numbered.1.payload = .single numbered.1.refinement names := by
  obtain ⟨start, configured, same⟩ := SameChoice.of_configure plan counter files
  refine ⟨start, configured, fun changes => ?_⟩
  obtain ⟨still, answers⟩ := respondEach_alike SameChoice.respond same changes
  exact ⟨answers, still.catalog_eq, still.selections_eq, still.isReady_eq, still.stepCount_eq, _,
    still.payload_eq, rfl⟩

end PatternRefinement
