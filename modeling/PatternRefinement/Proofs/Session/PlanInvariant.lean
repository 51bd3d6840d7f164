import PatternRefinement.Proofs.Selection
import PatternRefinement.Session.Plan

/-!
# The invariant of plans

A plan has at most twenty steps, numbered from one on in their order, and each of them selects
names of the current catalog in ascending order.  Every operation keeps this, whether it is
accepted or refused; only replacing the catalog has to restore it in all steps at once.

## Main Definitions

* `Plan.Operation`, `Plan.apply`, `Plan.afterAll` — what can be done to a plan, once and many times
* `Plan.WellFormed` — the invariant

## Design Notes

Readiness asks for a catalog that is not empty.  On a well-formed plan this follows from the
selections, so it can be left out there; on an arbitrary plan it cannot.
-/

namespace PatternRefinement

namespace Plan

/-! ## The invariant -/

/-- What holds of every plan that operations lead to. -/
structure WellFormed (plan : Plan) : Prop where
  /-- There are no more steps than a plan may have. -/
  length_le : plan.steps.length ≤ maxRefinementSteps
  /-- The steps are numbered one, two and so on, in their order. -/
  indices : plan.steps.map (·.index) = (List.range plan.steps.length).map (· + 1)
  /-- Each selection is in order, without repetition. -/
  ascending : ∀ step ∈ plan.steps, step.selection.Ascending
  /-- Each selected name belongs to the current catalog. -/
  offered : ∀ step ∈ plan.steps, step.selection.Offered plan.catalog

/-- A plan without steps is well-formed. -/
theorem wellFormed_ofCatalog (catalog : Catalog) : (ofCatalog catalog).WellFormed where
  length_le := Nat.zero_le _
  indices := rfl
  ascending := fun _ mem => absurd mem List.not_mem_nil
  offered := fun _ mem => absurd mem List.not_mem_nil

/-! ## What each change does -/

/-- A number of steps is accepted from one to the greatest number, and nothing else is. -/
theorem check_eq_ok {count accepted : Nat} (h : StepCount.check count = .ok accepted) :
    accepted = count ∧ 1 ≤ count ∧ count ≤ maxRefinementSteps := by
  unfold StepCount.check at h
  split at h
  · rename_i bounds
    cases h
    exact ⟨rfl, bounds⟩
  · cases h

/-- Configured steps are blank and numbered from one on. -/
theorem configure_eq_ok {plan next : Plan} {count : Nat} (h : plan.configure count = .ok next) :
    count ≤ maxRefinementSteps ∧
      next = { plan with steps := (List.range count).map fun k => .blank (k + 1) } := by
  unfold configure at h
  split at h
  · rename_i checked
    obtain ⟨rfl, _, bound⟩ := check_eq_ok checked
    cases h
    exact ⟨bound, rfl⟩
  · cases h

/-- The steps of a plan are numbered from one on. -/
theorem step?_succ (plan : Plan) (place : Nat) : plan.step? (place + 1) = plan.steps[place]? := by
  simp [step?]

theorem step?_eq_some {plan : Plan} {index : Nat} {step : RefinementStep}
    (h : plan.step? index = some step) : plan.steps[index - 1]? = some step := by
  unfold step? at h
  split at h
  · cases h
  · exact h

/-- An accepted toggle changes the selection of one step and nothing else. -/
theorem toggle_eq_ok {plan next : Plan} {index : Nat} {name : PatternName} {chosen : Bool}
    (h : plan.toggle index name = .ok (next, chosen)) :
    ∃ step selection, plan.step? index = some step ∧
      step.selection.toggle plan.catalog name = .ok (selection, chosen) ∧
      next = { plan with steps := plan.steps.set (index - 1) { step with selection } } := by
  unfold toggle at h
  split at h
  · cases h
  · rename_i step found
    split at h
    · cases h
    · rename_i selection now toggled
      cases h
      exact ⟨step, selection, found, toggled, rfl⟩

/-! ## The invariant is kept -/

theorem WellFormed.configure {plan next : Plan} {count : Nat}
    (h : plan.configure count = .ok next) : next.WellFormed := by
  obtain ⟨bound, rfl⟩ := configure_eq_ok h
  have blank : ∀ step ∈ (List.range count).map fun k => RefinementStep.blank (k + 1),
      step.selection = .empty := by
    intro step mem
    obtain ⟨k, _, rfl⟩ := List.mem_map.mp mem
    rfl
  refine ⟨?_, ?_, fun step mem => ?_, fun step mem => ?_⟩
  · rw [List.length_map, List.length_range]
    exact bound
  · rw [List.length_map, List.length_range, List.map_map]
    rfl
  · rw [blank step mem]
    exact Selection.ascending_empty
  · rw [blank step mem]
    exact Selection.offered_empty _

theorem WellFormed.toggle {plan next : Plan} {index : Nat} {name : PatternName} {chosen : Bool}
    (wellFormed : plan.WellFormed) (h : plan.toggle index name = .ok (next, chosen)) :
    next.WellFormed := by
  obtain ⟨step, selection, found, toggled, rfl⟩ := toggle_eq_ok h
  have here : plan.steps[index - 1]? = some step := step?_eq_some found
  have mem : step ∈ plan.steps := List.mem_of_getElem? here
  refine ⟨?_, ?_, fun other otherMem => ?_, fun other otherMem => ?_⟩
  · rw [List.length_set]
    exact wellFormed.length_le
  · -- The step keeps its number, so the list of numbers is set to what it holds already.
    obtain ⟨inside, same⟩ := List.getElem?_eq_some_iff.mp here
    rw [List.length_set, ← wellFormed.indices, List.map_set]
    refine List.ext_getElem (by rw [List.length_set]) fun k _ _ => ?_
    rw [List.getElem_set]
    split
    · rename_i equal
      subst equal
      rw [List.getElem_map, same]
    · rfl
  · rcases List.mem_or_eq_of_mem_set otherMem with old | rfl
    · exact wellFormed.ascending other old
    · exact (wellFormed.ascending step mem).toggle toggled
  · rcases List.mem_or_eq_of_mem_set otherMem with old | rfl
    · exact wellFormed.offered other old
    · exact (wellFormed.offered step mem).toggle toggled

theorem WellFormed.clear {plan : Plan} : plan.clear.WellFormed :=
  wellFormed_ofCatalog plan.catalog

theorem WellFormed.replaceCatalog {plan : Plan} (wellFormed : plan.WellFormed)
    (catalog : Catalog) : (Plan.replaceCatalog catalog plan).1.WellFormed := by
  refine ⟨?_, ?_, fun step mem => ?_, fun step mem => ?_⟩
  · show (plan.steps.map _).length ≤ _
    rw [List.length_map]
    exact wellFormed.length_le
  · show (plan.steps.map _).map _ = (List.range (plan.steps.map _).length).map _
    rw [List.length_map, ← wellFormed.indices, List.map_map]
    rfl
  · obtain ⟨old, oldMem, rfl⟩ := List.mem_map.mp mem
    exact (wellFormed.ascending old oldMem).keep catalog
  · obtain ⟨old, _, rfl⟩ := List.mem_map.mp mem
    exact Selection.offered_keep catalog old.selection

/-! ## Readiness -/

/-- A plan is ready when there are patterns, steps, and a selected pattern in each step. -/
theorem isReady_iff {plan : Plan} :
    plan.isReady = true ↔ plan.catalog.names ≠ [] ∧ plan.steps ≠ [] ∧
      ∀ step ∈ plan.steps, step.selection.names ≠ [] := by
  simp [isReady, Catalog.isEmpty, RefinementStep.isValid, Selection.isEmpty, and_assoc]

/-- Where a step of a well-formed plan has a pattern, the catalog has one too. -/
theorem WellFormed.catalog_ne_nil {plan : Plan} (wellFormed : plan.WellFormed)
    (steps : plan.steps ≠ [])
    (selected : ∀ step ∈ plan.steps, step.selection.names ≠ []) : plan.catalog.names ≠ [] := by
  obtain ⟨step, mem⟩ := List.exists_mem_of_ne_nil _ steps
  obtain ⟨name, chosen⟩ := List.exists_mem_of_ne_nil _ (selected step mem)
  exact List.ne_nil_of_mem (wellFormed.offered step mem name chosen)

/-- On a well-formed plan readiness asks for nothing but steps with a pattern each. -/
theorem WellFormed.isReady_iff {plan : Plan} (wellFormed : plan.WellFormed) :
    plan.isReady = true ↔
      plan.steps ≠ [] ∧ ∀ step ∈ plan.steps, step.selection.names ≠ [] := by
  rw [Plan.isReady_iff]
  exact ⟨And.right, fun h => ⟨wellFormed.catalog_ne_nil h.1 h.2, h⟩⟩

/-- A plan is not ready once the last pattern of a step has been given up. -/
theorem toggle_last {plan : Plan} {index : Nat} {step : RefinementStep} {name : PatternName}
    (found : plan.step? index = some step) (only : step.selection.names = [name]) :
    ∃ next, plan.toggle index name = .ok (next, false) ∧ next.isReady = false := by
  have toggled : step.selection.toggle plan.catalog name = .ok (.empty, false) :=
    Selection.toggle_last only
  refine ⟨_, by rw [toggle, found]; simp only [toggled]; rfl, ?_⟩
  obtain ⟨inside, _⟩ := List.getElem?_eq_some_iff.mp (step?_eq_some found)
  refine Bool.eq_false_iff.mpr fun ready => ?_
  have blank : ({ step with selection := .empty } : RefinementStep) ∈
      plan.steps.set (index - 1) { step with selection := .empty } :=
    List.mem_set inside _
  exact (isReady_iff.mp ready).2.2 _ blank rfl

/-! ## Runs of operations -/

/-- What can be done to a plan. -/
inductive Operation where
  | configure (count : Nat)
  | toggle (index : Nat) (name : PatternName)
  | clear
  | replaceCatalog (catalog : Catalog)
  /-- An archive has been saved. -/
  | recordSuccess (files : FileTree)

/-- The plan after an operation; a refused one leaves it as it is. -/
def apply (plan : Plan) : Operation → Plan
  | .configure count =>
    match plan.configure count with
    | .ok next => next
    | .error _ => plan
  | .toggle index name =>
    match plan.toggle index name with
    | .ok (next, _) => next
    | .error _ => plan
  | .clear => plan.clear
  | .replaceCatalog catalog => (Plan.replaceCatalog catalog plan).1
  | .recordSuccess files => (Session.recordSuccess plan files).1

/-- The plan after operations, one after the other. -/
def afterAll (plan : Plan) (operations : List Operation) : Plan :=
  operations.foldl apply plan

theorem WellFormed.apply {plan : Plan} (wellFormed : plan.WellFormed) (operation : Operation) :
    (plan.apply operation).WellFormed := by
  cases operation with
  | configure count =>
      rw [Plan.apply]
      split
      · rename_i configured
        exact WellFormed.configure configured
      · exact wellFormed
  | toggle index name =>
      rw [Plan.apply]
      split
      · rename_i toggled
        exact wellFormed.toggle toggled
      · exact wellFormed
  | clear => exact WellFormed.clear
  | replaceCatalog catalog => exact wellFormed.replaceCatalog catalog
  | recordSuccess files => exact wellFormed

theorem WellFormed.afterAll {plan : Plan} (wellFormed : plan.WellFormed)
    (operations : List Operation) : (plan.afterAll operations).WellFormed := by
  induction operations generalizing plan with
  | nil => exact wellFormed
  | cons operation rest ih => exact ih (wellFormed.apply operation)

/-- **Whatever is done to a plan, it stays well-formed**, its selections hold no name twice, it is
ready exactly when it has steps with a pattern each (and then the catalog has patterns too), and
giving up the last pattern of a step is accepted and leaves it not ready. -/
theorem wellFormed_and_isReady_iff (catalog : Catalog) (operations : List Operation) :
    let plan := (ofCatalog catalog).afterAll operations
    plan.WellFormed ∧
      (∀ step ∈ plan.steps, step.selection.names.Nodup) ∧
      (plan.isReady = true ↔
        plan.steps ≠ [] ∧ ∀ step ∈ plan.steps, step.selection.names ≠ []) ∧
      (plan.isReady = true → plan.catalog.names ≠ []) ∧
      ∀ index step name, plan.step? index = some step → step.selection.names = [name] →
        ∃ next, plan.toggle index name = .ok (next, false) ∧ next.isReady = false := by
  intro plan
  have wellFormed : plan.WellFormed := (wellFormed_ofCatalog catalog).afterAll operations
  refine ⟨wellFormed, ?_, wellFormed.isReady_iff, ?_, ?_⟩
  · exact fun step mem => (wellFormed.ascending step mem).nodup
  · exact fun ready => (isReady_iff.mp ready).1
  · exact fun index step name => toggle_last

example : ((ofCatalog ⟨["north"]⟩).afterAll
    [.configure 1, .toggle 1 "north", .toggle 1 "south"]).isReady = true := by decide

end Plan

end PatternRefinement
