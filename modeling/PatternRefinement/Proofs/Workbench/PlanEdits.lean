import PatternRefinement.Proofs.Session.ToggleOrder
import PatternRefinement.Proofs.StepCount

/-!
# Changes of a plan are made whole or not at all

## Main Definitions

* `Plan.toggleAnswer`, `Plan.editAnswer` — what a toggle, and any change, is answered with
* `Plan.edited` — the plan after a change
* `Plan.FlipsOnly` — a plan that differs from another one in one choice

## Main Statements

* `Plan.toggle_answer`, `Plan.configure_eq_error_iff` — the failures of a plan, and which of them
  comes first
* `Plan.flipsOnly_of_toggle` — an accepted toggle changes one choice
* `Plan.edited_of_error` — a refused change leaves the plan as it was
* `Workbench.plan_edits_whole_or_not_at_all` — the same at a workbench

## Design Notes

Nothing here asks for a plan that operations have led to.  A selected name is given up before the
catalog is looked at, so even a plan that selects a name that its catalog does not offer answers as
it should.
-/

namespace PatternRefinement

namespace Plan

/-! ## Answers -/

/-- What a toggle is answered with: that there is no such step, that the pattern is no longer
chosen, that there is no such pattern, or that it is chosen now; the first of these that applies. -/
def toggleAnswer (plan : Plan) (index : Nat) (name : PatternName) : Except Failure Bool :=
  if index = 0 ∨ plan.steps.length < index then
    .error (.stepOutOfRange index plan.steps.length)
  else if plan.holds index name then .ok false
  else if name ∉ plan.catalog.names then .error (.unknownPattern name)
  else .ok true

/-- What a change is answered with. -/
def editAnswer (plan : Plan) : PlanEdit → Except Failure Answer
  | .configure count =>
    if count = 0 ∨ maxRefinementSteps < count then .error (.invalidStepCount count) else .ok .done
  | .configureFrom raw => (StepCount.read raw).map .stepCount
  | .toggle index name => (plan.toggleAnswer index name).map .chosen
  | .clear => .ok .done

/-- The plan after a change. -/
def edited (plan : Plan) : PlanEdit → Plan
  | .configure count => plan.apply (.configure count)
  | .configureFrom raw =>
    match StepCount.read raw with
    | .ok count => plan.apply (.configure count)
    | .error _ => plan
  | .toggle index name => plan.apply (.toggle index name)
  | .clear => plan.apply .clear

/-- A plan that differs from another one in whether one pattern is chosen for one step, and in
nothing else. -/
structure FlipsOnly (plan next : Plan) (index : Nat) (name : PatternName) : Prop where
  catalog_eq : next.catalog = plan.catalog
  length_eq : next.steps.length = plan.steps.length
  /-- The other steps are the same. -/
  step?_eq : ∀ other, other ≠ index → next.step? other = plan.step? other
  /-- The step keeps its number. -/
  index_eq : (next.step? index).map (·.index) = (plan.step? index).map (·.index)
  /-- The other names are chosen for the step as before. -/
  holds_eq : ∀ other, other ≠ name → next.holds index other = plan.holds index other
  flipped : next.holds index name = !plan.holds index name

variable {plan next : Plan} {index count : Nat} {name : PatternName} {chosen : Bool}

/-! ## Toggles -/

/-- A step is missing if its number is zero or greater than that of the last one. -/
theorem step?_eq_none_iff :
    plan.step? index = none ↔ index = 0 ∨ plan.steps.length < index := by
  rw [Option.eq_none_iff_forall_ne_some, ← not_exists, exists_step?_iff]
  omega

/-- **A toggle is answered with the first thing that applies**, in any plan. -/
theorem toggle_answer (plan : Plan) (index : Nat) (name : PatternName) :
    (plan.toggle index name).map Prod.snd = plan.toggleAnswer index name := by
  unfold toggle toggleAnswer
  cases found : plan.step? index with
  | none =>
      rw [if_pos (step?_eq_none_iff.mp found)]
      rfl
  | some step =>
      have inside : ¬(index = 0 ∨ plan.steps.length < index) := fun missing =>
        absurd (found.symm.trans (step?_eq_none_iff.mpr missing)) nofun
      rw [if_neg inside, holds_of_step? found]
      dsimp only
      by_cases selected : name ∈ step.selection.names
      · have done : step.selection.toggle plan.catalog name = _ :=
          if_pos (Selection.contains_iff.mpr selected)
        rw [done, if_pos (Selection.contains_iff.mpr selected)]
        rfl
      · rw [Selection.toggle_of_not_mem selected,
          if_neg fun contained => selected (Selection.contains_iff.mp contained)]
        by_cases offered : name ∈ plan.catalog.names
        · rw [if_pos offered, if_neg (not_not_intro offered)]
          rfl
        · rw [if_neg offered, if_pos offered]
          rfl

/-- What an accepted toggle makes of a selection. -/
theorem contains_of_toggle {catalog : Catalog} {selection changed : Selection}
    (toggled : selection.toggle catalog name = .ok (changed, chosen)) (other : PatternName) :
    changed.contains other =
      if other = name then !selection.contains name else selection.contains other := by
  rcases Selection.toggle_eq_ok toggled with ⟨selected, rfl, -⟩ | ⟨new, -, rfl, -⟩
  · rw [Selection.contains_erase, Selection.contains_iff.mpr selected]
    rfl
  · have absent : selection.contains name = false :=
      Bool.eq_false_iff.mpr fun contained => new (Selection.contains_iff.mp contained)
    rw [Selection.contains_insert, absent]
    rfl

/-- **An accepted toggle changes one choice and nothing else.** -/
theorem flipsOnly_of_toggle (done : plan.toggle index name = .ok (next, chosen)) :
    plan.FlipsOnly next index name := by
  obtain ⟨step, selection, found, toggled, rfl⟩ := toggle_eq_ok done
  let flipped : RefinementStep := { step with selection }
  have changed (other : Nat) :
      ({ plan with steps := plan.steps.set (index - 1) flipped } : Plan).step? other =
        if other = index then some flipped else plan.step? other := step?_set found other
  have here := (changed index).trans (if_pos rfl)
  have holds_here (other : PatternName) :=
    (holds_of_step? here other).trans (contains_of_toggle toggled other)
  refine ⟨rfl, List.length_set, fun other apart => (changed other).trans (if_neg apart), ?_,
    fun other apart => ?_, ?_⟩
  · rw [here, found]
    rfl
  · rw [holds_here, if_neg apart, holds_of_step? found]
  · rw [holds_here, if_pos rfl, holds_of_step? found]

/-! ## Numbers of steps -/

/-- **A number of steps is refused exactly if it is zero or too great**, and then for that. -/
theorem configure_eq_error_iff (plan : Plan) {failure : Failure} :
    plan.configure count = .error failure ↔
      (count = 0 ∨ maxRefinementSteps < count) ∧ failure = .invalidStepCount count := by
  unfold configure
  rw [StepCount.check_eq]
  by_cases outside : count = 0 ∨ maxRefinementSteps < count
  · simp [outside, eq_comm]
  · simp [outside]

theorem exists_configure_eq_ok (plan : Plan) (valid : ¬(count = 0 ∨ maxRefinementSteps < count)) :
    ∃ next, plan.configure count = .ok next := by
  unfold configure
  rw [StepCount.check_eq, if_neg valid]
  exact ⟨_, rfl⟩

/-- A number of steps that a user typed is refused as one that is zero or too great. -/
theorem of_read_eq_error {raw : String} {failure : Failure}
    (refused : StepCount.read raw = .error failure) :
    ∃ count, (count = 0 ∨ maxRefinementSteps < count) ∧ failure = .invalidStepCount count := by
  obtain ⟨count, asked, -⟩ := StepCount.exists_read_eq_check raw
  rw [asked, StepCount.check_eq] at refused
  split at refused
  · rename_i outside
    cases refused
    exact ⟨count, outside, rfl⟩
  · cases refused

/-- A number of steps that a user typed and that is accepted is one that a plan may have. -/
theorem of_read_eq_ok {raw : String} (accepted : StepCount.read raw = .ok count) :
    ¬(count = 0 ∨ maxRefinementSteps < count) := by
  obtain ⟨wanted, asked, -⟩ := StepCount.exists_read_eq_check raw
  obtain ⟨rfl, positive, bound⟩ := check_eq_ok (asked ▸ accepted)
  omega

/-! ## Changes -/

/-- A refused operation leaves a plan as it was. -/
theorem apply_toggle_of_error {failure : Failure}
    (refused : plan.toggle index name = .error failure) :
    plan.apply (.toggle index name) = plan := by
  rw [apply, refused]

theorem apply_configure_of_error {failure : Failure}
    (refused : plan.configure count = .error failure) : plan.apply (.configure count) = plan := by
  rw [apply, refused]

/-- A number of steps that a plan may have is configured. -/
theorem configureEdited_of_valid (plan : Plan) (files : FileTree) (answer : Answer)
    (valid : ¬(count = 0 ∨ maxRefinementSteps < count)) :
    plan.configureEdited files count answer =
      .ok ⟨plan.apply (.configure count), files, answer, some (.info (configuredText count))⟩ := by
  obtain ⟨next, configured⟩ := plan.exists_configure_eq_ok valid
  rw [configureEdited, apply, configured]

/-- **A change is refused and the plan is as it was, or it is accepted and made.** -/
theorem edit_cases (plan : Plan) (files : FileTree) (change : PlanEdit) :
    (∃ failure, plan.editAnswer change = .error failure ∧
      plan.edit files change = .error failure ∧ plan.edited change = plan) ∨
    ∃ answer message?, plan.editAnswer change = .ok answer ∧
      plan.edit files change = .ok ⟨plan.edited change, files, answer, message?⟩ := by
  cases change with
  | configure count =>
      by_cases outside : count = 0 ∨ maxRefinementSteps < count
      · have refused := plan.configure_eq_error_iff.mpr ⟨outside, rfl⟩
        refine Or.inl ⟨.invalidStepCount count, if_pos outside, ?_,
          apply_configure_of_error refused⟩
        rw [edit, configureEdited, refused]
      · exact Or.inr ⟨.done, _, if_neg outside, plan.configureEdited_of_valid files _ outside⟩
  | configureFrom raw =>
      rw [editAnswer, edited, edit]
      cases read : StepCount.read raw with
      | error failure => exact Or.inl ⟨failure, rfl, rfl, rfl⟩
      | ok count =>
          exact Or.inr ⟨.stepCount count, _, rfl,
            plan.configureEdited_of_valid files _ (of_read_eq_ok read)⟩
  | toggle index name =>
      rw [editAnswer, edited, edit, ← toggle_answer, apply]
      cases plan.toggle index name with
      | error failure => exact Or.inl ⟨failure, rfl, rfl, rfl⟩
      | ok toggled => exact Or.inr ⟨.chosen toggled.2, none, rfl, rfl⟩
  | clear => exact Or.inr ⟨.done, _, rfl, rfl⟩

/-- A number of steps that is read from a text is refused as one that is zero or too great. -/
theorem of_editAnswer_configureFrom {raw : String} {failure : Failure}
    (refused : plan.editAnswer (.configureFrom raw) = .error failure) :
    ∃ count, (count = 0 ∨ maxRefinementSteps < count) ∧ failure = .invalidStepCount count := by
  rw [editAnswer] at refused
  cases read : StepCount.read raw with
  | error cause =>
      rw [read] at refused
      obtain rfl : cause = failure := Except.error.inj refused
      exact of_read_eq_error read
  | ok count =>
      rw [read] at refused
      cases refused

/-- A toggle that is answered without a failure has changed one choice. -/
theorem flipsOnly_edited {answer : Answer}
    (accepted : plan.editAnswer (.toggle index name) = .ok answer) :
    plan.FlipsOnly (plan.edited (.toggle index name)) index name := by
  rw [editAnswer, ← toggle_answer] at accepted
  rw [edited, apply]
  cases done : plan.toggle index name with
  | error failure =>
      rw [done] at accepted
      cases accepted
  | ok toggled => exact flipsOnly_of_toggle done

end Plan

namespace Workbench

/-- What a change comes to at a workbench. -/
theorem perform_edit_cases (deliver : Delivery) (bench : Workbench Plan) (files : FileTree)
    (change : PlanEdit) :
    (∃ failure, bench.session.editAnswer change = .error failure ∧
      bench.session.edited change = bench.session ∧
      bench.perform deliver files (.edit change) =
        bench.refuse files failure failure.message) ∨
    ∃ answer message?, bench.session.editAnswer change = .ok answer ∧
      bench.perform deliver files (.edit change) =
        accept { bench with session := bench.session.edited change } files answer message? := by
  have unfolded : bench.perform deliver files (.edit change) = bench.edit files change := rfl
  rcases bench.session.edit_cases files change with
    ⟨failure, answer, refused, same⟩ | ⟨answer, message?, same, accepted⟩
  · have refused : EditableSession.edit bench.session files change = _ := refused
    refine Or.inl ⟨failure, answer, same, ?_⟩
    rw [unfolded, edit, refused]
  · have accepted : EditableSession.edit bench.session files change = _ := accepted
    refine Or.inr ⟨answer, message?, same, ?_⟩
    rw [unfolded, edit, accepted]

/-- **Changes of a plan are made whole or not at all, and what they are refused for is exact.**

A toggle is answered with the first of four things that applies: the plan has no such step, the
pattern was chosen for the step, the catalog does not have it, it is chosen now.  A number of steps
is refused exactly if it is zero or greater than twenty.  A refused change leaves the plan as it
was; an accepted toggle changes whether the pattern is chosen for the step, and nothing else.

At a workbench all of this holds as well, also for a number of steps that is read from a text.  No
change sends a request or touches a file, and a refused one leaves the session and tells what it was
refused for. -/
theorem plan_edits_whole_or_not_at_all :
    (∀ (plan : Plan) (index : Nat) (name : PatternName),
      (plan.toggle index name).map Prod.snd = plan.toggleAnswer index name ∧
      (∀ next chosen, plan.toggle index name = .ok (next, chosen) →
        plan.FlipsOnly next index name) ∧
      ∀ failure, plan.toggle index name = .error failure →
        plan.apply (.toggle index name) = plan) ∧
    (∀ (plan : Plan) (count : Nat) (failure : Failure),
      (plan.configure count = .error failure ↔
        (count = 0 ∨ 20 < count) ∧ failure = .invalidStepCount count) ∧
      (plan.configure count = .error failure → plan.apply (.configure count) = plan)) ∧
    ∀ (deliver : Delivery) (bench : Workbench Plan) (files : FileTree) (change : PlanEdit),
      let turn := bench.perform deliver files (.edit change)
      turn.result = bench.session.editAnswer change ∧
      turn.bench.session = bench.session.edited change ∧
      turn.files = files ∧ turn.requests = [] ∧
      (∀ failure, turn.result = .error failure →
        turn.bench.session = bench.session ∧ turn.messages = [.error failure.message]) ∧
      (∀ raw failure, change = .configureFrom raw → turn.result = .error failure →
        ∃ count, (count = 0 ∨ 20 < count) ∧ failure = .invalidStepCount count) ∧
      ∀ index name answer, change = .toggle index name → turn.result = .ok answer →
        bench.session.FlipsOnly turn.bench.session index name := by
  refine ⟨fun plan index name => ⟨plan.toggle_answer index name,
      fun _ _ => Plan.flipsOnly_of_toggle, fun _ => Plan.apply_toggle_of_error⟩,
    fun plan count failure => ⟨plan.configure_eq_error_iff, Plan.apply_configure_of_error⟩, ?_⟩
  intro deliver bench files change
  rcases perform_edit_cases deliver bench files change with
    ⟨failure, answer, same, refused⟩ | ⟨answer, message?, same, accepted⟩
  · intro turn
    have turn_eq : turn = bench.refuse files failure failure.message := refused
    rw [turn_eq, answer, same]
    refine ⟨rfl, rfl, rfl, rfl, ?_, ?_, ?_⟩
    · rintro _ ⟨⟩
      exact ⟨rfl, rfl⟩
    · rintro raw _ rfl ⟨⟩
      exact Plan.of_editAnswer_configureFrom answer
    · rintro index name _ - ⟨⟩
  · intro turn
    have turn_eq : turn =
        accept { bench with session := bench.session.edited change } files answer message? :=
      accepted
    rw [turn_eq, same]
    refine ⟨rfl, rfl, rfl, rfl, ?_, ?_, ?_⟩
    · rintro _ ⟨⟩
    · rintro _ _ - ⟨⟩
    · rintro index name _ rfl -
      exact Plan.flipsOnly_edited same

example : let plan : Plan := ⟨⟨["north"]⟩, [.blank 1]⟩
    (plan.toggle 2 "south").map Prod.snd = .error (.stepOutOfRange 2 1) ∧
      (plan.toggle 1 "south").map Prod.snd = .error (.unknownPattern "south") :=
  ⟨rfl, rfl⟩

end Workbench

end PatternRefinement
