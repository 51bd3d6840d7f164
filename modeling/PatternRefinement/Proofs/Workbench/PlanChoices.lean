import Mathlib.Data.List.Forall2
import PatternRefinement.Proofs.Session.PlanInvariant
import PatternRefinement.Proofs.Workbench.Choices

/-!
# Choices for a plan

A plan is filled from texts, one for each step.  It is configured first, and then each name that a
text lists is chosen for the step with the number of the text.

## Main Definitions

* `Plan.choices` — the choices that texts stand for, each with the number of its step
* `Plan.wantedSteps` — the number of steps that a plan is configured with
* `Plan.Fits` — texts name known patterns for each of the steps, and for no others
* `Plan.Holding` — a plan in which exactly some choices have been made

## Main Statements

* `Plan.prepared_of_fits`, `Plan.unready_of_not_fits` — when a plan is prepared and ready

## Design Notes

A name for a step that the plan does not have is refused, and so is an unknown name.  A step without
names is not refused; it only leaves the plan not ready.
-/

namespace PatternRefinement

namespace Plan

/-! ## The choices for a plan -/

/-- The choices that texts stand for, one text for each step: the number of a step, and a name. -/
def choices (steps : List String) : List (Nat × PatternName) :=
  steps.zipIdx.flatMap fun (step, place) => (splitNames step).map fun name => (place + 1, name)

theorem mem_choices {steps : List String} {index : Nat} {name : PatternName} :
    (index, name) ∈ choices steps ↔
      ∃ place step, index = place + 1 ∧ steps[place]? = some step ∧ Lists step name := by
  simp only [choices, List.mem_flatMap, List.mem_map, Prod.exists, Prod.mk.injEq, mem_splitNames,
    List.mk_mem_zipIdx_iff_getElem?]
  constructor
  · rintro ⟨step, place, here, other, listed, rfl, rfl⟩
    exact ⟨place, step, rfl, here, listed⟩
  · rintro ⟨place, step, rfl, here, listed⟩
    exact ⟨step, place, here, name, listed, rfl, rfl⟩

/-- Steps have different numbers, and a text lists no name twice. -/
theorem nodup_choices (steps : List String) : (choices steps).Nodup := by
  refine List.nodup_flatMap.mpr ⟨fun (step, place) _ => ?_, ?_⟩
  · refine (nodup_splitNames step).map fun name other same => ?_
    exact (Prod.mk.inj same).2
  · have places : (steps.zipIdx.map Prod.snd).Nodup := by
      rw [List.zipIdx_map_snd]
      exact List.nodup_range'
    refine (List.pairwise_map.mp places).imp fun different => ?_
    intro choice here there
    obtain ⟨_, _, rfl⟩ := List.mem_map.mp here
    obtain ⟨_, _, same⟩ := List.mem_map.mp there
    exact different (Nat.succ.inj (Prod.mk.inj same).1).symm

/-! ## Plans that hold choices -/

/-- A plan of some number of steps in which exactly some choices have been made. -/
structure Holding (catalog : Catalog) (count : Nat) (plan : Plan)
    (chosen : List (Nat × PatternName)) : Prop where
  wellFormed : plan.WellFormed
  catalog_eq : plan.catalog = catalog
  length_eq : plan.steps.length = count
  mem_iff : ∀ place step, plan.steps[place]? = some step →
    ∀ name, name ∈ step.selection.names ↔ (place + 1, name) ∈ chosen

variable {catalog : Catalog} {count : Nat} {plan : Plan} {chosen : List (Nat × PatternName)}

/-- The plan with one more name selected for a step. -/
def withName (plan : Plan) (place : Nat) (step : RefinementStep) (name : PatternName) : Plan :=
  { plan with steps := plan.steps.set place { step with selection := step.selection.insert name } }

/-- What a toggle does with a name that is not chosen yet. -/
theorem Holding.toggle_eq (holding : Holding catalog count plan chosen) {place : Nat}
    {step : RefinementStep} (here : plan.steps[place]? = some step) {name : PatternName}
    (new : (place + 1, name) ∉ chosen) : plan.toggle (place + 1) name =
      if name ∈ catalog.names then .ok (plan.withName place step name, true)
      else .error (.unknownPattern name) := by
  have absent : name ∉ step.selection.names := fun mem =>
    new ((holding.mem_iff place step here name).mp mem)
  rw [toggle, step?_succ, here, ← holding.catalog_eq]
  dsimp only
  rw [Selection.toggle_of_not_mem absent]
  by_cases offered : name ∈ plan.catalog.names
  · rw [if_pos offered, if_pos offered]
    rfl
  · rw [if_neg offered, if_neg offered]

/-- A name that is selected for a step is one more choice. -/
theorem Holding.withName (holding : Holding catalog count plan chosen) {place : Nat}
    {step : RefinementStep} (here : plan.steps[place]? = some step) {name : PatternName}
    (wellFormed : (plan.withName place step name).WellFormed) :
    Holding catalog count (plan.withName place step name) ((place + 1, name) :: chosen) := by
  refine ⟨wellFormed, holding.catalog_eq, ?_, ?_⟩
  · exact List.length_set.trans holding.length_eq
  intro other changed there candidate
  rw [Plan.withName] at there
  by_cases same : other = place
  · subst same
    obtain ⟨inside, -⟩ := List.getElem?_eq_some_iff.mp here
    rw [List.getElem?_set_self inside] at there
    cases there
    simp [Selection.mem_insert, holding.mem_iff other step here]
  · rw [List.getElem?_set_ne (Ne.symm same)] at there
    simp [holding.mem_iff other changed there, same]

/-- A choice for a plan can be made once if the plan has the step and the catalog the name. -/
theorem madeOnce_toggle (files : FileTree) (catalog : Catalog) (count : Nat) :
    MadeOnce files (Holding catalog count)
      (fun choice => (1 ≤ choice.1 ∧ choice.1 ≤ count) ∧ choice.2 ∈ catalog.names)
      fun choice => PlanEdit.toggle choice.1 choice.2 := by
  rintro plan chosen ⟨index, name⟩ holding new
  have edited : ∀ next, plan.toggle index name = .ok next → EditableSession.edit plan files
      (PlanEdit.toggle index name) = .ok ⟨next.1, files, .chosen next.2, none⟩ := by
    intro next toggled
    show plan.edit files (.toggle index name) = _
    rw [Plan.edit, toggled]
  have refused : ∀ failure, plan.toggle index name = .error failure →
      EditableSession.edit plan files (PlanEdit.toggle index name) = .error failure := by
    intro failure toggled
    show plan.edit files (.toggle index name) = _
    rw [Plan.edit, toggled]
  cases index with
  | zero =>
      refine ⟨fun admissible => absurd admissible.1.1 (Nat.not_succ_le_zero 0), fun _ => ?_⟩
      exact ⟨_, refused _ rfl⟩
  | succ place =>
      cases here : plan.steps[place]? with
      | none =>
          have outside : count ≤ place := holding.length_eq ▸ List.getElem?_eq_none_iff.mp here
          refine ⟨fun admissible => absurd admissible.1.2 (by omega), fun _ => ?_⟩
          refine ⟨.stepOutOfRange (place + 1) plan.steps.length, refused _ ?_⟩
          rw [toggle, step?_succ, here]
      | some step =>
          have inside : place + 1 ≤ count :=
            holding.length_eq ▸ (List.getElem?_eq_some_iff.mp here).1
          have toggled := holding.toggle_eq here new
          constructor
          · intro admissible
            rw [if_pos admissible.2] at toggled
            exact ⟨_, edited _ toggled, holding.withName here (holding.wellFormed.toggle toggled)⟩
          · intro inadmissible
            have unknown : name ∉ catalog.names := fun offered =>
              inadmissible ⟨⟨Nat.le_add_left 1 place, inside⟩, offered⟩
            rw [if_neg unknown] at toggled
            exact ⟨_, refused _ toggled⟩

/-! ## Plans that are ready -/

/-- The number of steps that a plan is configured with: as many as a text says, or one for each of
the texts. -/
def wantedSteps (steps : List String) : Option String → Except Failure Nat
  | some raw => StepCount.read raw
  | none => StepCount.check steps.length

/-- Texts fit a plan of some number of steps: they name at least one pattern for each of the steps,
all of them known, and none for steps that the plan does not have. -/
structure Fits (names : List PatternName) (steps : List String) (count : Nat) : Prop where
  enough : count ≤ steps.length
  named : ∀ step ∈ steps.take count, ∃ name, Lists step name
  known : ∀ step ∈ steps.take count, ∀ name, Lists step name → name ∈ names
  nothingElse : ∀ step ∈ steps.drop count, ∀ name, ¬Lists step name

/-- The plan after a listing. -/
def listedPlan (names : List PatternName) : Plan :=
  (replaceCatalog (.ofNames names) empty).1

/-- A plan with `count` steps in which nothing is chosen. -/
def blankPlan (names : List PatternName) (count : Nat) : Plan :=
  { listedPlan names with steps := (List.range count).map fun k => .blank (k + 1) }

theorem configure_of_check (names : List PatternName)
    (checked : StepCount.check count = .ok count) :
    (listedPlan names).configure count = .ok (blankPlan names count) := by
  rw [configure, checked]
  rfl

theorem holding_blankPlan (names : List PatternName)
    (checked : StepCount.check count = .ok count) :
    Holding (.ofNames names) count (blankPlan names count) [] := by
  refine ⟨.configure (configure_of_check names checked), rfl, by simp [blankPlan], ?_⟩
  intro place step here name
  simp only [blankPlan, List.getElem?_map, Option.map_eq_some_iff] at here
  obtain ⟨k, -, rfl⟩ := here
  simp [RefinementStep.blank, Selection.empty]

/-- A number of steps that was read is one that a plan may have. -/
theorem check_of_wantedSteps {steps : List String} {stepCount? : Option String}
    (wanted : wantedSteps steps stepCount? = .ok count) : StepCount.check count = .ok count := by
  have again {given : Nat} (checked : StepCount.check given = .ok count) :
      StepCount.check count = .ok count := by
    obtain ⟨rfl, -⟩ := check_eq_ok checked
    exact checked
  cases stepCount? with
  | none => exact again wanted
  | some raw =>
      rw [wantedSteps, StepCount.read] at wanted
      split at wanted
      · split at wanted
        · exact again wanted
        · cases wanted
      · split at wanted
        · exact again wanted
        · cases wanted

/-- The change that gives a plan the wanted number of steps. -/
def configuration (steps : List String) : Option String → PlanEdit
  | some raw => .configureFrom raw
  | none => .configure steps.length

theorem planEdits_eq (steps : List String) (stepCount? : Option String) :
    (planEdits steps stepCount?).map Choice.always =
      (.always (configuration steps stepCount?) : Choice Plan PlanEdit) ::
        (choices steps).map fun choice => .always (PlanEdit.toggle choice.1 choice.2) := by
  have toggles : (steps.zipIdx.flatMap fun (step, place) =>
      (splitNames step).map (PlanEdit.toggle (place + 1))) =
        (choices steps).map fun choice => PlanEdit.toggle choice.1 choice.2 := by
    simp [choices, List.map_flatMap, Function.comp_def]
  have split : planEdits steps stepCount? = configuration steps stepCount? ::
      (choices steps).map fun choice => PlanEdit.toggle choice.1 choice.2 := by
    rw [← toggles]
    cases stepCount? <;> rfl
  rw [split, List.map_cons, List.map_map]
  rfl

theorem configureEdited_of_check (names : List PatternName) (files : FileTree) (answer : Answer)
    (checked : StepCount.check count = .ok count) :
    (listedPlan names).configureEdited files count answer =
      .ok ⟨blankPlan names count, files, answer, some (.info (configuredText count))⟩ := by
  rw [configureEdited, configure_of_check names checked]

/-- The choices are made in a plan with the wanted number of steps. -/
theorem prepared_planEdits {steps : List String} {stepCount? : Option String}
    (names : List PatternName) (files : FileTree)
    (wanted : wantedSteps steps stepCount? = .ok count) :
    Workbench.prepared empty files names ((planEdits steps stepCount?).map .always) =
      chooseAll files (blankPlan names count)
        ((choices steps).map fun choice => .always (PlanEdit.toggle choice.1 choice.2)) := by
  have checked := check_of_wantedSteps wanted
  have configured : ∃ answer, (listedPlan names).edit files (configuration steps stepCount?) =
      .ok ⟨blankPlan names count, files, answer, some (.info (configuredText count))⟩ := by
    cases stepCount? with
    | none =>
        obtain ⟨rfl, -⟩ := check_eq_ok wanted
        exact ⟨.done, configureEdited_of_check names files .done checked⟩
    | some raw =>
        have read : StepCount.read raw = .ok count := wanted
        refine ⟨.stepCount count, ?_⟩
        rw [configuration, Plan.edit, read]
        exact configureEdited_of_check names files (.stepCount count) checked
  obtain ⟨answer, configured⟩ := configured
  have edited : EditableSession.edit (Session.replaceCatalog (.ofNames names) empty).1 files
      (configuration steps stepCount?) = _ := configured
  rw [Workbench.prepared, planEdits_eq, chooseAll_always, edited]

/-- No plan is prepared without a number of steps. -/
theorem prepared_planEdits_error {steps : List String} {stepCount? : Option String}
    (names : List PatternName) (files : FileTree) {failure : Failure}
    (unwanted : wantedSteps steps stepCount? = .error failure) :
    Workbench.prepared empty files names ((planEdits steps stepCount?).map .always) =
      .error failure := by
  have refused : (listedPlan names).edit files (configuration steps stepCount?) =
      .error failure := by
    cases stepCount? with
    | none =>
        have checked : StepCount.check steps.length = .error failure := unwanted
        rw [configuration, Plan.edit, configureEdited, configure, checked]
    | some raw =>
        have read : StepCount.read raw = .error failure := unwanted
        rw [configuration, Plan.edit, read]
  have edited : EditableSession.edit (Session.replaceCatalog (.ofNames names) empty).1 files
      (configuration steps stepCount?) = _ := refused
  rw [Workbench.prepared, planEdits_eq, chooseAll_always, edited]

theorem mem_take_iff {steps : List String} {step : String} :
    step ∈ steps.take count ↔ ∃ place, place < count ∧ steps[place]? = some step := by
  rw [List.mem_iff_getElem?]
  refine exists_congr fun place => ?_
  rw [List.getElem?_take]
  split
  · rename_i inside
    exact ⟨fun here => ⟨inside, here⟩, And.right⟩
  · rename_i outside
    exact ⟨nofun, fun here => absurd here.1 outside⟩

theorem mem_drop_iff {steps : List String} {step : String} :
    step ∈ steps.drop count ↔ ∃ place, count ≤ place ∧ steps[place]? = some step := by
  rw [List.mem_iff_getElem?]
  constructor
  · rintro ⟨place, here⟩
    rw [List.getElem?_drop] at here
    exact ⟨count + place, Nat.le_add_right count place, here⟩
  · rintro ⟨place, behind, here⟩
    refine ⟨place - count, ?_⟩
    rw [List.getElem?_drop, Nat.add_sub_cancel' behind, here]

/-- The choices can be made if they fit the steps and the listing. -/
theorem admissible_iff {steps : List String} {names : List PatternName} :
    (∀ choice ∈ choices steps,
      (1 ≤ choice.1 ∧ choice.1 ≤ count) ∧ choice.2 ∈ (Catalog.ofNames names).names) ↔
      (∀ step ∈ steps.take count, ∀ name, Lists step name → name ∈ names) ∧
        ∀ step ∈ steps.drop count, ∀ name, ¬Lists step name := by
  simp only [Catalog.ofNames, List.mem_eraseDups, mem_take_iff, mem_drop_iff]
  constructor
  · intro all
    constructor
    · rintro step ⟨place, -, here⟩ name listed
      exact (all _ (mem_choices.mpr ⟨place, step, rfl, here, listed⟩)).2
    · rintro step ⟨place, behind, here⟩ name listed
      have inside := (all _ (mem_choices.mpr ⟨place, step, rfl, here, listed⟩)).1.2
      exact absurd inside (Nat.not_le.mpr (Nat.lt_succ_of_le behind))
  · rintro ⟨known, nothingElse⟩ ⟨index, name⟩ made
    obtain ⟨place, step, rfl, here, listed⟩ := mem_choices.mp made
    have inside : place < count := by
      by_contra behind
      exact nothingElse step ⟨place, Nat.not_lt.mp behind, here⟩ name listed
    exact ⟨⟨Nat.le_add_left 1 place, inside⟩, known step ⟨place, inside, here⟩ name listed⟩

/-- A plan in which all choices have been made. -/
theorem Holding.mem_selection_iff {steps : List String}
    (holding : Holding catalog count plan ((choices steps).reverse ++ [])) {place : Nat}
    {step : RefinementStep} (here : plan.steps[place]? = some step) (name : PatternName) :
    name ∈ step.selection.names ↔ ∃ text, steps[place]? = some text ∧ Lists text name := by
  rw [holding.mem_iff place step here name, List.append_nil, List.mem_reverse, mem_choices]
  constructor
  · rintro ⟨_, text, same, there, listed⟩
    cases same
    exact ⟨text, there, listed⟩
  · rintro ⟨text, there, listed⟩
    exact ⟨place, text, rfl, there, listed⟩

/-- A plan in which all choices have been made is ready if there is one for each step. -/
theorem Holding.isReady_iff {steps : List String}
    (holding : Holding catalog count plan ((choices steps).reverse ++ [])) (positive : 1 ≤ count) :
    plan.isReady = true ↔
      count ≤ steps.length ∧ ∀ step ∈ steps.take count, ∃ name, Lists step name := by
  have nonempty : plan.steps ≠ [] := by
    intro none
    have length := holding.length_eq
    rw [none, List.length_nil] at length
    omega
  rw [holding.wellFormed.isReady_iff]
  constructor
  · rintro ⟨-, selected⟩
    -- Where a step of the plan has a name, a text lists it.
    have listed : ∀ place, place < count → ∃ text name, steps[place]? = some text ∧
        Lists text name := by
      intro place inside
      have here := List.getElem?_eq_getElem (holding.length_eq ▸ inside)
      obtain ⟨name, mem⟩ := List.exists_mem_of_ne_nil _ (selected _ (List.mem_of_getElem? here))
      obtain ⟨text, there, listed⟩ := (holding.mem_selection_iff here name).mp mem
      exact ⟨text, name, there, listed⟩
    constructor
    · by_contra short
      obtain ⟨text, _, there, -⟩ := listed steps.length (Nat.not_le.mp short)
      rw [List.getElem?_eq_none (Nat.le_refl _)] at there
      cases there
    · intro step mem
      obtain ⟨place, inside, here⟩ := mem_take_iff.mp mem
      obtain ⟨text, name, there, listed⟩ := listed place inside
      obtain rfl := Option.some.inj (there.symm.trans here)
      exact ⟨name, listed⟩
  · rintro ⟨enough, named⟩
    refine ⟨nonempty, fun step mem => ?_⟩
    obtain ⟨place, here⟩ := List.mem_iff_getElem?.mp mem
    have inside : place < count := holding.length_eq ▸ (List.getElem?_eq_some_iff.mp here).1
    have there := List.getElem?_eq_getElem (Nat.lt_of_lt_of_le inside enough)
    obtain ⟨name, listed⟩ := named _ (mem_take_iff.mpr ⟨place, inside, there⟩)
    exact List.ne_nil_of_mem ((holding.mem_selection_iff here name).mpr ⟨_, there, listed⟩)

/-- The selections of a plan in which all choices have been made are what the texts list. -/
theorem Holding.forall₂_chooses {steps : List String}
    (holding : Holding catalog count plan ((choices steps).reverse ++ []))
    (enough : count ≤ steps.length) :
    List.Forall₂ (fun names step => Chooses names (Lists step))
      (plan.steps.map (·.selection.names)) (steps.take count) := by
  refine List.forall₂_iff_get.mpr ⟨?_, fun place inside _ => ?_⟩
  · rw [List.length_map, holding.length_eq, List.length_take_of_le enough]
  have there : place < plan.steps.length := by simpa using inside
  have here := List.getElem?_eq_getElem there
  have text := List.getElem?_eq_getElem
    (Nat.lt_of_lt_of_le (holding.length_eq ▸ there) enough : place < steps.length)
  simp only [List.get_eq_getElem, List.getElem_map, List.getElem_take]
  refine ⟨holding.wellFormed.ascending _ (List.getElem_mem there), fun name => ?_⟩
  rw [holding.mem_selection_iff here name, text]
  simp

/-- All choices can be made in the plan with the wanted number of steps, or nothing is prepared. -/
theorem prepared_cases {steps : List String} {stepCount? : Option String}
    (names : List PatternName) (files : FileTree)
    (wanted : wantedSteps steps stepCount? = .ok count) :
    (∃ failure, Workbench.prepared empty files names ((planEdits steps stepCount?).map .always) =
        .error failure ∧ ¬Fits names steps count) ∨
      ∃ plan,
        Workbench.prepared empty files names ((planEdits steps stepCount?).map .always) = .ok plan ∧
        Holding (.ofNames names) count plan ((choices steps).reverse ++ []) ∧
        (plan.isReady = true ↔ Fits names steps count) := by
  have checked := check_of_wantedSteps wanted
  have distinct : (choices steps ++ []).Nodup := by simpa using nodup_choices steps
  have once := madeOnce_toggle files (.ofNames names) count
  rw [prepared_planEdits names files wanted]
  by_cases all : ∀ choice ∈ choices steps,
      (1 ≤ choice.1 ∧ choice.1 ≤ count) ∧ choice.2 ∈ (Catalog.ofNames names).names
  · obtain ⟨plan, done, holding⟩ :=
      chooseAll_distinct once distinct (holding_blankPlan names checked) all
    refine Or.inr ⟨plan, done, holding, ?_⟩
    obtain ⟨known, nothingElse⟩ := admissible_iff.mp all
    rw [holding.isReady_iff (check_eq_ok checked).2.1]
    exact ⟨fun ready => ⟨ready.1, ready.2, known, nothingElse⟩,
      fun fits => ⟨fits.enough, fits.named⟩⟩
  · refine Or.inl ?_
    have misfit : ¬Fits names steps count := fun fits =>
      all (admissible_iff.mpr ⟨fits.known, fits.nothingElse⟩)
    push Not at all
    obtain ⟨bad, mem, inadmissible⟩ := all
    obtain ⟨failure, refused⟩ := chooseAll_distinct_error once distinct
      (holding_blankPlan names checked) mem fun admissible => inadmissible admissible.1 admissible.2
    exact ⟨failure, refused, misfit⟩

/-- **From texts that fit, a plan is prepared that is ready**, with what they list selected. -/
theorem prepared_of_fits {steps : List String} {stepCount? : Option String}
    {names : List PatternName} (files : FileTree)
    (wanted : wantedSteps steps stepCount? = .ok count) (fits : Fits names steps count) :
    ∃ plan : Plan,
      Workbench.prepared empty files names ((planEdits steps stepCount?).map .always) = .ok plan ∧
      plan.isReady = true ∧ plan.steps.length = count ∧
      List.Forall₂ (fun names step => Chooses names (Lists step))
        (plan.steps.map (·.selection.names)) (steps.take count) := by
  rcases prepared_cases names files wanted with ⟨_, -, misfit⟩ | ⟨plan, done, holding, ready⟩
  · exact absurd fits misfit
  · exact ⟨plan, done, ready.mpr fits, holding.length_eq, holding.forall₂_chooses fits.enough⟩

/-- From texts that do not fit, no plan is prepared that is ready. -/
theorem unready_of_not_fits {steps : List String} {stepCount? : Option String}
    {names : List PatternName} (files : FileTree)
    (misfit : ∀ count, wantedSteps steps stepCount? = .ok count → ¬Fits names steps count)
    (plan : Plan)
    (done : Workbench.prepared empty files names ((planEdits steps stepCount?).map .always) =
      .ok plan) :
    Session.isReady plan = false := by
  cases wanted : wantedSteps steps stepCount? with
  | error failure =>
      rw [prepared_planEdits_error names files wanted] at done
      cases done
  | ok count =>
      rcases prepared_cases names files wanted with ⟨_, refused, -⟩ | ⟨other, same, -, ready⟩
      · cases refused.symm.trans done
      · obtain rfl := Except.ok.inj (same.symm.trans done)
        exact Bool.eq_false_iff.mpr fun now => misfit count wanted (ready.mp now)

/-- A plan keeps nothing in files. -/
theorem leavesFiles_always (files : FileTree) (changes : List PlanEdit) :
    ∀ choice ∈ changes.map Choice.always, LeavesFiles (S := Plan) files choice := by
  intro choice mem plan _ edited chosen done
  obtain ⟨change, -, rfl⟩ := List.mem_map.mp mem
  obtain rfl := Option.some.inj chosen
  have accepted : plan.edit files change = .ok edited := done
  have configured {count : Nat} {answer : Answer}
      (h : plan.configureEdited files count answer = .ok edited) : edited.files = files := by
    unfold configureEdited at h
    split at h
    · cases h
      rfl
    · cases h
  unfold edit at accepted
  split at accepted
  · exact configured accepted
  · split at accepted
    · exact configured accepted
    · cases accepted
  · split at accepted
    · cases accepted
      rfl
    · cases accepted
  · cases accepted
    rfl

end Plan

end PatternRefinement
