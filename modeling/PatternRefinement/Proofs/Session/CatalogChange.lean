import PatternRefinement.Proofs.Catalog
import PatternRefinement.Proofs.Session.PlanInvariant
import PatternRefinement.Session.Numbered

/-!
# Sessions under another catalog

When the catalog of a session is replaced, each selection keeps the names that the new catalog
offers, and the session tells how many names it has lost.

## Main Definitions

* `Selection.within`, `namesOutside` — what is left of selections if only some names are wanted, and
  how many names are lost
* `NumberedSelection.WellFormed` — the invariant of numbered selections
* `PrunesExactly` — all that another catalog does to the selections of a session

## Main Statements

* `prunesExactly_of_keeps` — sessions that keep each selection and add up the losses prune exactly
* `replaceCatalog_prunes_exactly` — the sessions of both kinds do

## Design Notes

What one catalog leaves is judged by the next catalog, so both laws about two catalogs come from one
about filtering twice.  That a session does not become ready is no law of filtering: a session that
selects names its catalog does not offer may wait for a catalog that offers them.  It holds because
every selected name is offered, which all changes of a session keep.
-/

namespace PatternRefinement

/-! ## Wanted names -/

/-- What is left of a selection if only some names are wanted. -/
def Selection.within (wanted : PatternName → Bool) (selection : Selection) : Selection :=
  ⟨selection.names.filter wanted⟩

/-- How many names of selections are not wanted. -/
def namesOutside (wanted : PatternName → Bool) (selections : List Selection) : Nat :=
  (selections.flatMap fun selection => selection.names.filter (!wanted ·)).length

namespace Selection

theorem within_within (first second : PatternName → Bool) (selection : Selection) :
    (selection.within first).within second =
      selection.within fun name => first name && second name := by
  rw [within, within, within, List.filter_filter]
  simp only [Bool.and_comm]

/-- A catalog that is made of a listing leaves the names that are listed. -/
theorem keep_ofNames (names : List PatternName) (selection : Selection) :
    selection.keep (.ofNames names) = selection.within (· ∈ names) := by
  rw [keep, within, Selection.mk.injEq]
  refine List.filter_congr fun name _ => ?_
  rw [Bool.eq_iff_iff, decide_eq_true_iff]
  exact Catalog.contains_ofNames

/-- What is left and what is lost make up the selection. -/
theorem length_within_add (wanted : PatternName → Bool) (selection : Selection) :
    (selection.within wanted).names.length + (selection.names.filter (!wanted ·)).length =
      selection.names.length := by
  rw [within, ← List.countP_eq_length_filter, ← List.countP_eq_length_filter,
    List.length_eq_countP_add_countP wanted]
  simp only [Bool.not_eq_true, Bool.decide_eq_false]

theorem lost_ofNames (names : List PatternName) (selection : Selection) :
    selection.lost (.ofNames names) =
      (selection.names.filter fun name => !decide (name ∈ names)).length := by
  rw [lost, keep_ofNames]
  exact Nat.sub_eq_of_eq_add' (selection.length_within_add (· ∈ names)).symm

/-- What is lost in two steps is what is not wanted in both. -/
theorem length_outside_add (first second : PatternName → Bool) (selection : Selection) :
    (selection.names.filter (!first ·)).length +
        ((selection.within first).names.filter (!second ·)).length =
      (selection.names.filter fun name => !(first name && second name)).length := by
  have once := selection.length_within_add first
  have again := (selection.within first).length_within_add second
  have both := selection.length_within_add fun name => first name && second name
  rw [within_within] at again
  omega

end Selection

theorem namesOutside_add (first second : PatternName → Bool) (selections : List Selection) :
    namesOutside first selections + namesOutside second (selections.map (·.within first)) =
      namesOutside (fun name => first name && second name) selections := by
  induction selections with
  | nil => rfl
  | cons selection rest ih =>
      have here := selection.length_outside_add first second
      simp only [namesOutside, List.map_cons, List.flatMap_cons, List.length_append] at ih ⊢
      omega

/-- Nothing is lost of selections that have wanted names only. -/
theorem namesOutside_within (wanted : PatternName → Bool) (selections : List Selection) :
    namesOutside wanted (selections.map (·.within wanted)) = 0 := by
  have twice := namesOutside_add wanted wanted selections
  simp only [Bool.and_self] at twice
  exact Nat.add_eq_left.mp twice

/-! ## Exact pruning -/

section Prunes

variable {S : Type} [Session S]

/-- All that another catalog, made of a listing, does to the selections of a session. -/
structure PrunesExactly (selections : S → List Selection) (session : S) : Prop where
  /-- The session has the catalog of the listing and as many steps as before. -/
  catalog_eq : ∀ names,
    Session.catalog (Session.replaceCatalog (.ofNames names) session).1 = .ofNames names
  stepCount_eq : ∀ names, Session.stepCount (Session.replaceCatalog (.ofNames names) session).1 =
    Session.stepCount session
  /-- Each selection keeps the names that are listed. -/
  kept : ∀ names, selections (Session.replaceCatalog (.ofNames names) session).1 =
    (selections session).map (·.within (· ∈ names))
  /-- The names that are lost are counted, over all selections. -/
  counted : ∀ names, (Session.replaceCatalog (.ofNames names) session).2 =
    namesOutside (· ∈ names) (selections session)
  /-- A listing of the same names takes nothing more away. -/
  again : ∀ names others, (∀ name, name ∈ others ↔ name ∈ names) →
    let next := (Session.replaceCatalog (.ofNames names) session).1
    selections (Session.replaceCatalog (.ofNames others) next).1 = selections next ∧
      (Session.replaceCatalog (.ofNames others) next).2 = 0
  /-- Two listings, one after the other, leave what is in both, and their losses add up. -/
  both : ∀ first second,
    let next := Session.replaceCatalog (.ofNames first) session
    let last := Session.replaceCatalog (.ofNames second) next.1
    selections last.1 =
        (selections session).map (·.within fun name => name ∈ first ∧ name ∈ second) ∧
      next.2 + last.2 = namesOutside (fun name => name ∈ first ∧ name ∈ second)
        (selections session)
  /-- A session that is not ready does not become ready. -/
  notReady : Session.isReady session = false → ∀ names,
    Session.isReady (Session.replaceCatalog (.ofNames names) session).1 = false

/-- How sessions of a kind take over another catalog. -/
structure Keeps (selections : S → List Selection) : Prop where
  catalog_eq : ∀ catalog (session : S),
    Session.catalog (Session.replaceCatalog catalog session).1 = catalog
  stepCount_eq : ∀ catalog (session : S),
    Session.stepCount (Session.replaceCatalog catalog session).1 = Session.stepCount session
  keep_eq : ∀ catalog session, selections (Session.replaceCatalog catalog session).1 =
    (selections session).map (·.keep catalog)
  lost_eq : ∀ catalog session, (Session.replaceCatalog catalog session).2 =
    (selections session).foldl (fun lost selection => lost + selection.lost catalog) 0

variable {selections : S → List Selection}

theorem Keeps.kept (keeps : Keeps selections) (names : List PatternName) (session : S) :
    selections (Session.replaceCatalog (.ofNames names) session).1 =
      (selections session).map (·.within (· ∈ names)) := by
  rw [keeps.keep_eq]
  exact List.map_congr_left fun selection _ => selection.keep_ofNames names

theorem Keeps.counted (keeps : Keeps selections) (names : List PatternName) (session : S) :
    (Session.replaceCatalog (.ofNames names) session).2 =
      namesOutside (· ∈ names) (selections session) := by
  rw [keeps.lost_eq, namesOutside, List.length_flatMap, List.sum_eq_foldl, List.foldl_map]
  simp only [Selection.lost_ofNames]

/-- **Sessions that keep each selection and add up the losses prune exactly**, if the catalog makes
none of them ready. -/
theorem prunesExactly_of_keeps (keeps : Keeps selections) {session : S}
    (notReady : Session.isReady session = false → ∀ catalog,
      Session.isReady (Session.replaceCatalog catalog session).1 = false) :
    PrunesExactly selections session where
  catalog_eq names := keeps.catalog_eq _ session
  stepCount_eq names := keeps.stepCount_eq _ session
  kept names := keeps.kept names session
  counted names := keeps.counted names session
  again := by
    intro names others same next
    have wanted : (fun name => decide (name ∈ others)) = fun name => decide (name ∈ names) :=
      funext fun name => decide_eq_decide.mpr (same name)
    rw [keeps.kept, keeps.counted, wanted, keeps.kept]
    refine ⟨?_, namesOutside_within _ _⟩
    rw [List.map_map]
    refine List.map_congr_left fun selection _ => ?_
    simp only [Function.comp_apply, Selection.within_within, Bool.and_self]
  both := by
    intro first second next last
    simp only [Bool.decide_and]
    rw [← namesOutside_add, ← keeps.kept first session]
    constructor
    · rw [keeps.kept, keeps.kept, List.map_map]
      exact List.map_congr_left fun selection _ => selection.within_within _ _
    · rw [keeps.counted, keeps.counted]
  notReady unready names := notReady unready _

end Prunes

/-! ## Plans -/

namespace Plan

theorem keeps : Keeps fun plan : Plan => plan.steps.map (·.selection) where
  catalog_eq _ _ := rfl
  stepCount_eq _ _ := List.length_map _
  keep_eq catalog plan := by
    show (plan.steps.map (·.keep catalog)).map (·.selection) = _
    rw [List.map_map, List.map_map]
    rfl
  lost_eq catalog plan := by
    show plan.steps.foldl (fun lost step => lost + step.selection.lost catalog) 0 = _
    rw [List.foldl_map]

/-- Another catalog leaves the numbers of the steps as they are. -/
theorem indices_replaceCatalog (catalog : Catalog) (plan : Plan) :
    (Plan.replaceCatalog catalog plan).1.steps.map (·.index) = plan.steps.map (·.index) := by
  show (plan.steps.map (·.keep catalog)).map (·.index) = _
  rw [List.map_map]
  rfl

/-- A well-formed plan that is not ready has no step or one without patterns, and so it does under
any catalog. -/
theorem WellFormed.not_ready {plan : Plan} (wellFormed : plan.WellFormed)
    (unready : plan.isReady = false) (catalog : Catalog) :
    (Plan.replaceCatalog catalog plan).1.isReady = false := by
  rw [← Bool.not_eq_true] at unready ⊢
  intro ready
  obtain ⟨steps, selected⟩ := (wellFormed.replaceCatalog catalog).isReady_iff.mp ready
  refine unready (wellFormed.isReady_iff.mpr ⟨fun none => steps ?_, fun step mem blank => ?_⟩)
  · exact List.map_eq_nil_iff.mpr none
  · refine selected (step.keep catalog) (List.mem_map_of_mem mem) ?_
    show step.selection.names.filter _ = []
    rw [blank, List.filter_nil]

example :
    let plan : Plan := ⟨.empty, [⟨1, ⟨["north"]⟩⟩]⟩
    plan.isReady = false ∧ (Plan.replaceCatalog ⟨["north"]⟩ plan).1.isReady = true := by decide

end Plan

/-! ## Numbered selections -/

namespace NumberedSelection

/-- What holds of every numbered selection that changes lead to. -/
structure WellFormed (session : NumberedSelection) : Prop where
  /-- The selection is in order, without repetition. -/
  ascending : session.selection.Ascending
  /-- Each selected name belongs to the current catalog. -/
  offered : session.selection.Offered session.catalog

/-- What can be done to a numbered selection. -/
inductive Operation where
  | toggle (name : PatternName)
  | replaceCatalog (catalog : Catalog)
  | recordSuccess (files : FileTree)
  | resetCounter (files : FileTree)

/-- The session after an operation; one that is refused leaves it as it is. -/
def apply (session : NumberedSelection) : Operation → NumberedSelection
  | .toggle name =>
    match session.toggle name with
    | .ok (next, _) => next
    | .error _ => session
  | .replaceCatalog catalog => (NumberedSelection.replaceCatalog catalog session).1
  | .recordSuccess files => (session.recordSuccess files).1
  | .resetCounter files => (session.resetCounter files).1

/-- The session after operations, one after the other. -/
def afterAll (session : NumberedSelection) (operations : List Operation) : NumberedSelection :=
  operations.foldl apply session

theorem wellFormed_load (catalog : Catalog) (counter : CounterStore) (files : FileTree) :
    (load catalog counter files).WellFormed :=
  ⟨Selection.ascending_empty, Selection.offered_empty catalog⟩

theorem WellFormed.toggle {session next : NumberedSelection} {name : PatternName} {chosen : Bool}
    (wellFormed : session.WellFormed) (h : session.toggle name = .ok (next, chosen)) :
    next.WellFormed := by
  unfold NumberedSelection.toggle at h
  split at h
  · rename_i toggled
    cases h
    exact ⟨wellFormed.ascending.toggle toggled, wellFormed.offered.toggle toggled⟩
  · cases h

theorem WellFormed.replaceCatalog {session : NumberedSelection} (wellFormed : session.WellFormed)
    (catalog : Catalog) : (NumberedSelection.replaceCatalog catalog session).1.WellFormed :=
  ⟨wellFormed.ascending.keep catalog, Selection.offered_keep catalog session.selection⟩

theorem WellFormed.apply {session : NumberedSelection} (wellFormed : session.WellFormed)
    (operation : Operation) : (session.apply operation).WellFormed := by
  cases operation with
  | toggle name =>
      rw [NumberedSelection.apply]
      split
      · rename_i toggled
        exact wellFormed.toggle toggled
      · exact wellFormed
  | replaceCatalog catalog => exact wellFormed.replaceCatalog catalog
  | recordSuccess files => exact ⟨wellFormed.ascending, wellFormed.offered⟩
  | resetCounter files => exact ⟨wellFormed.ascending, wellFormed.offered⟩

theorem WellFormed.afterAll {session : NumberedSelection} (wellFormed : session.WellFormed)
    (operations : List Operation) : (session.afterAll operations).WellFormed := by
  induction operations generalizing session with
  | nil => exact wellFormed
  | cons operation rest ih => exact ih (wellFormed.apply operation)

theorem keeps : Keeps fun session : NumberedSelection => [session.selection] where
  catalog_eq _ _ := rfl
  stepCount_eq _ _ := rfl
  keep_eq _ _ := rfl
  lost_eq _ _ := (Nat.zero_add _).symm

/-- A session is ready when there are patterns and one is selected. -/
theorem isReady_iff {session : NumberedSelection} : session.isReady = true ↔
    session.catalog.names ≠ [] ∧ session.selection.names ≠ [] := by
  simp [isReady, Catalog.isEmpty, Selection.isEmpty]

/-- A well-formed session that is not ready selects nothing, and so it does under any catalog. -/
theorem WellFormed.not_ready {session : NumberedSelection} (wellFormed : session.WellFormed)
    (unready : session.isReady = false) (catalog : Catalog) :
    (NumberedSelection.replaceCatalog catalog session).1.isReady = false := by
  rw [← Bool.not_eq_true] at unready ⊢
  intro ready
  obtain ⟨name, kept⟩ := List.exists_mem_of_ne_nil _ (isReady_iff.mp ready).2
  have selected := (Selection.mem_keep.mp kept).1
  exact unready (isReady_iff.mpr ⟨List.ne_nil_of_mem (wellFormed.offered name selected),
    List.ne_nil_of_mem selected⟩)

end NumberedSelection

/-! ## Both kinds of sessions -/

/-- **Another catalog prunes exactly.**  Whatever was done to a plan, or to a numbered selection,
another catalog leaves of each selection what it offers and tells how many names were lost; the
steps keep their numbers and their order.  The same names once more, in any order and with any
repetition, take nothing away; two catalogs leave what both offer, and their losses add up; and a
session that is not ready does not become ready. -/
theorem replaceCatalog_prunes_exactly (catalog : Catalog) (edits : List Plan.Operation)
    (counter : CounterStore) (files : FileTree) (changes : List NumberedSelection.Operation) :
    let plan := (Plan.ofCatalog catalog).afterAll edits
    let session := (NumberedSelection.load catalog counter files).afterAll changes
    (PrunesExactly (fun plan : Plan => plan.steps.map (·.selection)) plan ∧
      ∀ names, (Plan.replaceCatalog (.ofNames names) plan).1.steps.map (·.index) =
        plan.steps.map (·.index)) ∧
    PrunesExactly (fun session : NumberedSelection => [session.selection]) session := by
  intro plan session
  have planned : plan.WellFormed := (Plan.wellFormed_ofCatalog catalog).afterAll edits
  have numbered : session.WellFormed :=
    (NumberedSelection.wellFormed_load catalog counter files).afterAll changes
  refine ⟨⟨prunesExactly_of_keeps Plan.keeps planned.not_ready, fun names => ?_⟩,
    prunesExactly_of_keeps NumberedSelection.keeps numbered.not_ready⟩
  exact Plan.indices_replaceCatalog _ plan

end PatternRefinement
