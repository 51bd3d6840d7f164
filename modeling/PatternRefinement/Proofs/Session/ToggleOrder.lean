import Mathlib.Logic.Function.Iterate
import PatternRefinement.Proofs.Names
import PatternRefinement.Proofs.Session.PlanInvariant
import PatternRefinement.Workbench.Edits

/-!
# The order of toggles does not matter

A toggle flips one choice, a pattern for a step, and leaves all others alone.  So what many toggles
lead to depends on how often each choice is flipped and on nothing else.

## Main Definitions

* `Plan.holds` — whether a choice is made in a plan
* `Plan.toggleEach` — the plan after toggles, one after the other, and their results
* `Plan.Accepts` — the plan has the step, and its catalog the pattern
* `Plan.FlippedBy` — a plan in which each choice has been flipped some number of times

## Main Statements

* `Plan.WellFormed.toggle_of_accepts`, `Plan.WellFormed.toggle_of_not_accepts` — one toggle
* `Plan.WellFormed.flippedBy_toggleEach` — many toggles
* `Plan.FlippedBy.unique` — how often each choice is flipped determines the plan
* `Plan.toggles_in_any_order` — the results and the plan that toggles lead to

## Design Notes

A name that is selected could be given up even if the catalog did not offer it, and then a toggle
might be accepted at one moment and refused at another.  In a well-formed plan every selected name
is offered, so what is accepted never changes.
-/

namespace PatternRefinement

/-! ## Toggles of one selection -/

namespace Selection

variable {catalog : Catalog} {selection : Selection} {name : PatternName}

theorem contains_iff : selection.contains name = true ↔ name ∈ selection.names :=
  List.contains_iff_mem

theorem contains_erase (selection : Selection) (name other : PatternName) :
    (selection.erase name).contains other =
      if other = name then false else selection.contains other := by
  rw [Bool.eq_iff_iff, contains_iff, mem_erase]
  by_cases same : other = name <;> simp [same, contains_iff]

theorem contains_insert (selection : Selection) (name other : PatternName) :
    (selection.insert name).contains other =
      if other = name then true else selection.contains other := by
  rw [Bool.eq_iff_iff, contains_iff, mem_insert]
  by_cases same : other = name <;> simp [same, contains_iff]

/-- A toggle of a name that the catalog offers flips whether it is selected. -/
theorem toggle_of_offered (selection : Selection) (offered : name ∈ catalog.names) :
    ∃ next, selection.toggle catalog name = .ok (next, !selection.contains name) ∧
      ∀ other, next.contains other =
        if other = name then !selection.contains name else selection.contains other := by
  cases selected : selection.contains name with
  | true => exact ⟨_, if_pos selected, fun other => selection.contains_erase name other⟩
  | false =>
      have new : name ∉ selection.names := fun mem => by simp [contains_iff.mpr mem] at selected
      refine ⟨_, ?_, fun other => selection.contains_insert name other⟩
      rw [toggle_of_not_mem new, if_pos offered]
      rfl

/-- A toggle of a name that the catalog does not offer is refused, if what is selected is
offered. -/
theorem toggle_of_not_offered (invariant : selection.Offered catalog)
    (unknown : name ∉ catalog.names) :
    selection.toggle catalog name = .error (.unknownPattern name) := by
  rw [toggle_of_not_mem fun mem => unknown (invariant name mem), if_neg unknown]

end Selection

namespace Plan

/-! ## Choices of a plan -/

/-- Whether a pattern is chosen for the step with a number. -/
def holds (plan : Plan) (index : Nat) (name : PatternName) : Bool :=
  (plan.step? index).any (·.selection.contains name)

/-- A plan accepts a toggle if it has the step and its catalog the pattern. -/
def Accepts (plan : Plan) (choice : Nat × PatternName) : Prop :=
  (1 ≤ choice.1 ∧ choice.1 ≤ plan.steps.length) ∧ choice.2 ∈ plan.catalog.names

instance (plan : Plan) (choice : Nat × PatternName) : Decidable (plan.Accepts choice) :=
  inferInstanceAs (Decidable ((1 ≤ choice.1 ∧ choice.1 ≤ plan.steps.length) ∧
    choice.2 ∈ plan.catalog.names))

/-- The plan after toggles, one after the other, and the result of each. -/
def toggleEach (plan : Plan) : List (Nat × PatternName) → Plan × List (Except Failure Bool)
  | [] => (plan, [])
  | (index, name) :: rest =>
    let others := (plan.apply (.toggle index name)).toggleEach rest
    (others.1, (plan.toggle index name).map Prod.snd :: others.2)

/-- How often toggles flip a choice: not at all if the plan does not accept them. -/
def flips (plan : Plan) (toggles : List (Nat × PatternName)) (choice : Nat × PatternName) : Nat :=
  if plan.Accepts choice then toggles.count choice else 0

/-- How many toggles of a choice were accepted. -/
def acceptedCount (toggles : List (Nat × PatternName)) (results : List (Except Failure Bool))
    (choice : Nat × PatternName) : Nat :=
  (toggles.zip results).countP fun (toggle, result) => toggle == choice && result.isOk

/-- A plan in which each choice of another plan has been flipped some number of times. -/
structure FlippedBy (plan next : Plan) (flips : Nat × PatternName → Nat) : Prop where
  catalog_eq : next.catalog = plan.catalog
  length_eq : next.steps.length = plan.steps.length
  holds_eq : ∀ index name,
    next.holds index name = Bool.not^[flips (index, name)] (plan.holds index name)

variable {plan next : Plan} {index : Nat} {name : PatternName}

/-! ### How often a choice is flipped -/

theorem flips_of_accepts {toggles : List (Nat × PatternName)} {choice : Nat × PatternName}
    (accepts : plan.Accepts choice) : plan.flips toggles choice = toggles.count choice :=
  if_pos accepts

theorem flips_of_not_accepts {toggles : List (Nat × PatternName)} {choice : Nat × PatternName}
    (refused : ¬plan.Accepts choice) : plan.flips toggles choice = 0 :=
  if_neg refused

/-- A choice that is not toggled is not flipped. -/
theorem flips_eq_zero {toggles : List (Nat × PatternName)} {choice : Nat × PatternName}
    (absent : choice ∉ toggles) : plan.flips toggles choice = 0 := by
  rw [flips, List.count_eq_zero_of_not_mem absent, ite_self]

/-- A toggle flips its own choice once if the plan accepts it. -/
theorem flips_singleton (plan : Plan) (toggle choice : Nat × PatternName) :
    plan.flips [toggle] choice = if toggle == choice && plan.Accepts toggle then 1 else 0 := by
  by_cases same : toggle = choice
  · subst same
    simp [flips]
  · rw [flips_eq_zero (by simpa using Ne.symm same)]
    simp [same]

theorem flips_cons (plan : Plan) (toggle : Nat × PatternName) (rest : List (Nat × PatternName))
    (choice : Nat × PatternName) :
    plan.flips (toggle :: rest) choice = plan.flips [toggle] choice + plan.flips rest choice := by
  by_cases accepts : plan.Accepts choice
  · rw [flips_of_accepts accepts, flips_of_accepts accepts, flips_of_accepts accepts,
      List.count_cons, List.count_singleton, Nat.add_comm]
  · rw [flips_of_not_accepts accepts, flips_of_not_accepts accepts, flips_of_not_accepts accepts]

namespace FlippedBy

variable {first second : Nat × PatternName → Nat}

theorem refl (plan : Plan) : plan.FlippedBy plan fun _ => 0 :=
  ⟨rfl, rfl, fun _ _ => rfl⟩

theorem trans {last : Plan} (before : plan.FlippedBy next first)
    (later : next.FlippedBy last second) :
    plan.FlippedBy last fun choice => second choice + first choice := by
  refine ⟨later.catalog_eq.trans before.catalog_eq, later.length_eq.trans before.length_eq, ?_⟩
  intro index name
  rw [later.holds_eq, before.holds_eq, Function.iterate_add_apply]

theorem congr (flipped : plan.FlippedBy next first)
    (same : ∀ choice, first choice = second choice) : plan.FlippedBy next second :=
  (funext same : first = second) ▸ flipped

/-- What is accepted does not depend on what has been flipped. -/
theorem accepts_iff (flipped : plan.FlippedBy next first) {choice : Nat × PatternName} :
    next.Accepts choice ↔ plan.Accepts choice := by
  rw [Accepts, Accepts, flipped.catalog_eq, flipped.length_eq]

theorem flips_eq (flipped : plan.FlippedBy next first) (toggles : List (Nat × PatternName)) :
    next.flips toggles = plan.flips toggles :=
  funext fun _ => if_congr flipped.accepts_iff rfl rfl

end FlippedBy

/-! ### The steps of a plan -/

/-- There is a step with a number if the number is one of those from one on to the last. -/
theorem exists_step?_iff : (∃ step, plan.step? index = some step) ↔
    1 ≤ index ∧ index ≤ plan.steps.length := by
  cases index with
  | zero => simp [step?]
  | succ place =>
      rw [step?_succ]
      constructor
      · rintro ⟨step, here⟩
        exact ⟨Nat.succ_pos place, (List.getElem?_eq_some_iff.mp here).1⟩
      · rintro ⟨-, inside⟩
        exact ⟨plan.steps[place], List.getElem?_eq_getElem inside⟩

theorem holds_of_step? {step : RefinementStep} (found : plan.step? index = some step)
    (name : PatternName) : plan.holds index name = step.selection.contains name := by
  rw [holds, found]
  rfl

/-- Changing a step leaves the others alone. -/
theorem step?_set {step changed : RefinementStep} (found : plan.step? index = some step)
    (other : Nat) :
    ({ plan with steps := plan.steps.set (index - 1) changed } : Plan).step? other =
      if other = index then some changed else plan.step? other := by
  obtain ⟨positive, inside⟩ := exists_step?_iff.mp ⟨step, found⟩
  unfold step?
  by_cases zero : other = 0
  · rw [if_pos zero, if_pos zero, if_neg (by omega)]
  rw [if_neg zero, if_neg zero]
  by_cases same : other = index
  · rw [same, if_pos rfl, List.getElem?_set_self (by omega)]
  · rw [if_neg same, List.getElem?_set_ne (by omega)]

/-! ## One toggle -/

/-- **A toggle that is accepted flips one choice**, and says what has become of it. -/
theorem toggle_of_accepts (accepts : plan.Accepts (index, name)) :
    ∃ next, plan.toggle index name = .ok (next, !plan.holds index name) ∧
      plan.FlippedBy next (plan.flips [(index, name)]) := by
  obtain ⟨bounds, offered⟩ := id accepts
  obtain ⟨step, found⟩ := exists_step?_iff.mpr bounds
  obtain ⟨selection, toggled, flipped⟩ := step.selection.toggle_of_offered offered
  refine ⟨{ plan with steps := plan.steps.set (index - 1) { step with selection } }, ?_, rfl,
    List.length_set, fun other otherName => ?_⟩
  · rw [toggle, found, holds_of_step? found]
    dsimp only
    rw [toggled]
  · rw [holds, step?_set found]
    by_cases same : other = index
    · subst same
      rw [if_pos rfl, holds_of_step? found, flips_singleton, decide_eq_true accepts]
      show selection.contains otherName = _
      rw [flipped]
      by_cases sameName : otherName = name
      · simp [sameName]
      · simp [sameName, Ne.symm sameName]
    · rw [if_neg same, ← holds, flips_singleton]
      simp [Ne.symm same]

/-- A toggle that is not accepted is refused. -/
theorem WellFormed.toggle_of_not_accepts (wellFormed : plan.WellFormed)
    (refused : ¬plan.Accepts (index, name)) :
    ∃ failure, plan.toggle index name = .error failure := by
  unfold Plan.toggle
  cases found : plan.step? index with
  | none => exact ⟨_, rfl⟩
  | some step =>
      have bounds := exists_step?_iff.mp ⟨step, found⟩
      have mem : step ∈ plan.steps := List.mem_of_getElem? (step?_eq_some found)
      have unknown : name ∉ plan.catalog.names := fun offered => refused ⟨bounds, offered⟩
      dsimp only
      rw [Selection.toggle_of_not_offered (wellFormed.offered step mem) unknown]
      exact ⟨_, rfl⟩

/-- A toggle is accepted or refused whatever has been chosen so far. -/
theorem WellFormed.isOk_toggle (wellFormed : plan.WellFormed) (index : Nat) (name : PatternName) :
    ((plan.toggle index name).map Prod.snd).isOk = decide (plan.Accepts (index, name)) := by
  by_cases accepts : plan.Accepts (index, name)
  · obtain ⟨next, toggled, -⟩ := toggle_of_accepts accepts
    rw [toggled, decide_eq_true accepts]
    rfl
  · obtain ⟨failure, toggled⟩ := wellFormed.toggle_of_not_accepts accepts
    rw [toggled, decide_eq_false accepts]
    rfl

/-- A toggle is accepted exactly if the plan has the step and its catalog the pattern. -/
theorem WellFormed.exists_ok_iff (wellFormed : plan.WellFormed) (index : Nat)
    (name : PatternName) :
    (∃ chosen, (plan.toggle index name).map Prod.snd = .ok chosen) ↔
      plan.Accepts (index, name) := by
  have accepted := wellFormed.isOk_toggle index name
  cases result : (plan.toggle index name).map Prod.snd with
  | ok chosen =>
      rw [result] at accepted
      exact ⟨fun _ => of_decide_eq_true accepted.symm, fun _ => ⟨chosen, rfl⟩⟩
  | error failure =>
      rw [result] at accepted
      exact ⟨nofun, fun accepts => absurd accepts (of_decide_eq_false accepted.symm)⟩

/-- An accepted toggle says whether its choice is made then. -/
theorem WellFormed.holds_of_toggle (wellFormed : plan.WellFormed) {index : Nat}
    {name : PatternName} {chosen : Bool}
    (done : (plan.toggle index name).map Prod.snd = .ok chosen) :
    (plan.apply (.toggle index name)).holds index name = chosen := by
  have accepts := (wellFormed.exists_ok_iff index name).mp ⟨chosen, done⟩
  obtain ⟨next, toggled, flipped⟩ := toggle_of_accepts accepts
  rw [toggled] at done
  obtain rfl := Except.ok.inj done
  rw [Plan.apply, toggled]
  refine (flipped.holds_eq index name).trans ?_
  rw [flips_of_accepts accepts, List.count_singleton_self]
  rfl

/-- A toggle flips its own choice if it is accepted, and nothing otherwise. -/
theorem WellFormed.flippedBy_apply (wellFormed : plan.WellFormed)
    (toggle : Nat × PatternName) :
    plan.FlippedBy (plan.apply (.toggle toggle.1 toggle.2)) (plan.flips [toggle]) := by
  by_cases accepts : plan.Accepts toggle
  · obtain ⟨next, toggled, flipped⟩ := toggle_of_accepts accepts
    rw [Plan.apply, toggled]
    exact flipped
  · obtain ⟨failure, toggled⟩ := wellFormed.toggle_of_not_accepts accepts
    rw [Plan.apply, toggled]
    refine (FlippedBy.refl plan).congr fun choice => ?_
    rw [flips_singleton, decide_eq_false accepts, Bool.and_false, if_neg Bool.false_ne_true]

/-! ## Many toggles -/

theorem toggleEach_concat (plan : Plan) (past : List (Nat × PatternName))
    (toggle : Nat × PatternName) :
    (plan.toggleEach (past ++ [toggle])).1 =
      (plan.toggleEach past).1.apply (.toggle toggle.1 toggle.2) := by
  induction past generalizing plan with
  | nil => rfl
  | cons first rest ih => exact ih (plan.apply (.toggle first.1 first.2))

/-- A result among many is that of its toggle, in the plan that the toggles before it led to. -/
theorem getElem?_toggleEach (plan : Plan) (past : List (Nat × PatternName))
    (toggle : Nat × PatternName) (future : List (Nat × PatternName)) :
    (plan.toggleEach (past ++ toggle :: future)).2[past.length]? =
      some (((plan.toggleEach past).1.toggle toggle.1 toggle.2).map Prod.snd) := by
  induction past generalizing plan with
  | nil => rfl
  | cons first rest ih => exact ih (plan.apply (.toggle first.1 first.2))

theorem WellFormed.toggleEach (wellFormed : plan.WellFormed)
    (toggles : List (Nat × PatternName)) : (plan.toggleEach toggles).1.WellFormed := by
  induction toggles generalizing plan with
  | nil => exact wellFormed
  | cons toggle rest ih => exact ih (wellFormed.apply (.toggle toggle.1 toggle.2))

/-- **Toggles flip each choice as often as it is toggled**, if it is accepted at all. -/
theorem WellFormed.flippedBy_toggleEach (wellFormed : plan.WellFormed)
    (toggles : List (Nat × PatternName)) :
    plan.FlippedBy (plan.toggleEach toggles).1 (plan.flips toggles) := by
  induction toggles generalizing plan with
  | nil => exact (FlippedBy.refl plan).congr fun choice => (flips_eq_zero List.not_mem_nil).symm
  | cons toggle rest ih =>
      have first := wellFormed.flippedBy_apply toggle
      have later := ih (wellFormed.apply (.toggle toggle.1 toggle.2))
      refine (first.trans later).congr fun choice => ?_
      rw [first.flips_eq, flips_cons plan toggle rest, Nat.add_comm]

/-- The toggles of a choice that were accepted are those that flip it. -/
theorem WellFormed.acceptedCount_eq (wellFormed : plan.WellFormed)
    (toggles : List (Nat × PatternName)) (choice : Nat × PatternName) :
    acceptedCount toggles (plan.toggleEach toggles).2 choice = plan.flips toggles choice := by
  induction toggles generalizing plan with
  | nil => exact (flips_eq_zero List.not_mem_nil).symm
  | cons toggle rest ih =>
      have first := wellFormed.flippedBy_apply toggle
      have later := ih (wellFormed.apply (.toggle toggle.1 toggle.2))
      rw [first.flips_eq] at later
      rw [flips_cons plan toggle rest, ← later, Nat.add_comm, acceptedCount, Plan.toggleEach,
        List.zip_cons_cons, List.countP_cons, ← acceptedCount]
      dsimp only
      simp only [flips_singleton, wellFormed.isOk_toggle]

/-! ## What is flipped equally often -/

theorem WellFormed.index_eq (wellFormed : plan.WellFormed) {place : Nat} {step : RefinementStep}
    (here : plan.steps[place]? = some step) : step.index = place + 1 := by
  have numbered := congrArg (·[place]?) wellFormed.indices
  obtain ⟨inside, rfl⟩ := List.getElem?_eq_some_iff.mp here
  simpa [inside] using numbered

theorem holds_succ {place : Nat} {step : RefinementStep} (here : plan.steps[place]? = some step)
    (name : PatternName) : plan.holds (place + 1) name = step.selection.contains name :=
  holds_of_step? ((plan.step?_succ place).trans here) name

/-- A step is known by its place and by the choices that are made for it. -/
theorem WellFormed.step_unique {other : Plan} (wellFormed : plan.WellFormed)
    (wellFormedOther : other.WellFormed) {place : Nat} {step stepOther : RefinementStep}
    (here : plan.steps[place]? = some step) (there : other.steps[place]? = some stepOther)
    (same : ∀ name, plan.holds (place + 1) name = other.holds (place + 1) name) :
    step = stepOther := by
  have index_eq : step.index = stepOther.index :=
    (wellFormed.index_eq here).trans (wellFormedOther.index_eq there).symm
  have names_eq : step.selection.names = stepOther.selection.names := by
    refine ascending_unique (wellFormed.ascending step (List.mem_of_getElem? here))
      (wellFormedOther.ascending stepOther (List.mem_of_getElem? there)) fun name => ?_
    rw [← Selection.contains_iff, ← Selection.contains_iff, ← holds_succ here, ← holds_succ there,
      same]
  obtain ⟨index, ⟨names⟩⟩ := step
  obtain ⟨indexOther, ⟨namesOther⟩⟩ := stepOther
  cases index_eq
  cases names_eq
  rfl

/-- **How often each choice is flipped determines the plan.** -/
theorem FlippedBy.unique {flips : Nat × PatternName → Nat} {other : Plan}
    (flipped : plan.FlippedBy next flips) (flippedOther : plan.FlippedBy other flips)
    (wellFormed : next.WellFormed) (wellFormedOther : other.WellFormed) : next = other := by
  have length_eq := flipped.length_eq.trans flippedOther.length_eq.symm
  have steps_eq : next.steps = other.steps := by
    refine List.ext_getElem length_eq fun place inside insideOther => ?_
    refine wellFormed.step_unique wellFormedOther (List.getElem?_eq_getElem inside)
      (List.getElem?_eq_getElem insideOther) fun name => ?_
    rw [flipped.holds_eq, flippedOther.holds_eq]
  obtain ⟨catalog, steps⟩ := next
  obtain ⟨catalogOther, stepsOther⟩ := other
  obtain rfl : catalog = catalogOther := flipped.catalog_eq.trans flippedOther.catalog_eq.symm
  obtain rfl : steps = stepsOther := steps_eq
  rfl

/-- Toggles in another order flip the same choices equally often. -/
theorem WellFormed.toggleEach_perm (wellFormed : plan.WellFormed)
    {toggles others : List (Nat × PatternName)} (perm : toggles.Perm others) :
    (plan.toggleEach others).1 = (plan.toggleEach toggles).1 := by
  refine (wellFormed.flippedBy_toggleEach others).unique ?_ (wellFormed.toggleEach others)
    (wellFormed.toggleEach toggles)
  refine (wellFormed.flippedBy_toggleEach toggles).congr fun choice => ?_
  rw [flips, flips, perm.count_eq]

/-- **What toggles lead to does not depend on their order.**  In a plan that any operations have led
to, a choice is flipped once for each toggle of it that is accepted.  A toggle is accepted exactly
if the plan has the step and its catalog the pattern, wherever it stands among the others, and then
it says whether its choice is made now.  The same toggles in another order lead to the same steps,
so that the plan is ready at the same time, asks for the same patterns and sends the same
request. -/
theorem toggles_in_any_order (catalog : Catalog) (operations : List Operation)
    (toggles : List (Nat × PatternName)) :
    let plan := (ofCatalog catalog).afterAll operations
    let toggled := plan.toggleEach toggles
    (∀ index name, toggled.1.holds index name =
      Bool.not^[acceptedCount toggles toggled.2 (index, name)] (plan.holds index name)) ∧
    (∀ past index name future, toggles = past ++ (index, name) :: future →
      ∃ result, toggled.2[past.length]? = some result ∧
        ((∃ chosen, result = .ok chosen) ↔
          (1 ≤ index ∧ index ≤ plan.steps.length) ∧ name ∈ plan.catalog.names) ∧
        ∀ chosen, result = .ok chosen →
          (plan.toggleEach (past ++ [(index, name)])).1.holds index name = chosen) ∧
    ∀ others, toggles.Perm others →
      let reordered := plan.toggleEach others
      reordered.1.steps = toggled.1.steps ∧
        reordered.1.isReady = toggled.1.isReady ∧
        reordered.1.payload = toggled.1.payload ∧
        ∀ configured, (Workbench.ofSession reordered.1 configured).request.body =
          (Workbench.ofSession toggled.1 configured).request.body := by
  intro plan toggled
  have wellFormed : plan.WellFormed := (wellFormed_ofCatalog catalog).afterAll operations
  have flipped := wellFormed.flippedBy_toggleEach toggles
  refine ⟨fun index name => ?_, ?_, fun others perm => ?_⟩
  · rw [flipped.holds_eq, wellFormed.acceptedCount_eq]
  · rintro past index name future rfl
    have before := wellFormed.toggleEach past
    have flippedBefore := wellFormed.flippedBy_toggleEach past
    refine ⟨_, plan.getElem?_toggleEach past (index, name) future, ?_, ?_⟩
    · exact (before.exists_ok_iff index name).trans flippedBefore.accepts_iff
    · intro chosen done
      rw [toggleEach_concat]
      exact before.holds_of_toggle done
  · have same := wellFormed.toggleEach_perm perm
    intro reordered
    rw [show reordered.1 = toggled.1 from same]
    exact ⟨rfl, rfl, rfl, fun _ => rfl⟩

end Plan

end PatternRefinement
