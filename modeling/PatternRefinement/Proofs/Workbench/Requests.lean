import PatternRefinement.Proofs.RequestRoundTrip
import PatternRefinement.Proofs.Session.PlanInvariant
import PatternRefinement.Proofs.Text.Blank
import PatternRefinement.Proofs.Workbench.Runs
import PatternRefinement.Workbench.Edits

/-!
# The requests of a plan at work

Whatever a user does with a plan, the service only receives requests that it can make sense of.

## Main Definitions

* `latestCatalog` — the catalog that the last listing installed

## Main Statements

* `Plan.requests_of_run` — which requests a run sends, and what each of them asks for

## Design Notes

A request is judged by what its body is read as, and that is compared with the plan just before
the command.  The plan is well-formed at every moment, which gives all that is said about the
names; the catalog that it has is the one that the latest listing installed.
-/

namespace PatternRefinement

/-! ## The catalog of a moment -/

/-- The catalog that the last listing in a run installed, and the first catalog before any. -/
def latestCatalog {Edit : Type} (first : Catalog) (commands : List (Command Edit)) : Catalog :=
  commands.foldl (fun catalog command => command.installs?.getD catalog) first

/-! ## The project of a request -/

/-- A configured name stands for a project unless all of it is blank. -/
theorem namedProject?_eq_some_iff {configured : Option String} {name : String} :
    namedProject? configured = some name ↔ ∃ raw, configured = some raw ∧
      (∃ c ∈ raw.toList, Text.isBlank c = false) ∧ name = Text.trimmed raw := by
  have notBlank {raw : String} : (!(Text.trimmed raw).isEmpty) = true ↔
      ∃ c ∈ raw.toList, Text.isBlank c = false := by
    rw [Bool.not_eq_true', Bool.eq_false_iff, ne_eq, Text.isEmpty_trimmed_iff]
    simp only [not_forall, exists_prop, Bool.not_eq_true]
  rw [namedProject?, Option.filter_eq_some_iff, Option.map_eq_some_iff]
  constructor
  · rintro ⟨⟨raw, rfl, rfl⟩, kept⟩
    exact ⟨raw, rfl, notBlank.mp kept, rfl⟩
  · rintro ⟨raw, rfl, inside, rfl⟩
    exact ⟨⟨raw, rfl, rfl⟩, notBlank.mpr inside⟩

namespace Plan

/-! ## The plan of a moment -/

theorem configureEdited_eq_ok {plan : Plan} {files : FileTree} {count : Nat} {answer : Answer}
    {next : Edited Plan} (h : plan.configureEdited files count answer = .ok next) :
    plan.configure count = .ok next.session := by
  unfold configureEdited at h
  split at h
  · rename_i configured
    cases h
    exact configured
  · cases h

/-- A change of a plan is one of its operations, so the plan stays well-formed and keeps its
catalog. -/
theorem edit_eq_ok {plan : Plan} {files : FileTree} {change : PlanEdit} {next : Edited Plan}
    (h : plan.edit files change = .ok next) :
    (plan.WellFormed → next.session.WellFormed) ∧ next.session.catalog = plan.catalog := by
  have configured {count : Nat} {answer : Answer}
      (h : plan.configureEdited files count answer = .ok next) :
      (plan.WellFormed → next.session.WellFormed) ∧ next.session.catalog = plan.catalog := by
    have done := configureEdited_eq_ok h
    exact ⟨fun _ => WellFormed.configure done, by rw [(configure_eq_ok done).2]⟩
  unfold edit at h
  split at h
  · exact configured h
  · split at h
    · exact configured h
    · cases h
  · split at h
    · rename_i toggled
      cases h
      refine ⟨fun wellFormed => wellFormed.toggle toggled, ?_⟩
      obtain ⟨step, selection, -, -, rfl⟩ := toggle_eq_ok toggled
      rfl
    · cases h
  · cases h
    exact ⟨fun _ => WellFormed.clear, rfl⟩

variable {deliver : Delivery} {bench : Workbench Plan} {files : FileTree}

theorem wellFormed_perform (idle : bench.busy = false) (wellFormed : bench.session.WellFormed)
    (command : Command PlanEdit) :
    (bench.perform deliver files command).bench.session.WellFormed :=
  Workbench.session_perform idle wellFormed
    (fun catalog _ wellFormed => wellFormed.replaceCatalog catalog)
    (fun _ _ wellFormed => wellFormed)
    (fun _ _ _ _ wellFormed changed => (edit_eq_ok changed).1 wellFormed) command

theorem catalog_perform (idle : bench.busy = false) (command : Command PlanEdit) :
    (bench.perform deliver files command).bench.session.catalog =
      command.installs?.getD bench.session.catalog := by
  cases installs : command.installs? with
  | none =>
      refine Workbench.session_perform_of_installs_none
        (P := fun plan => plan.catalog = bench.session.catalog) idle rfl (fun _ _ same => same)
        (fun _ _ plan _ same changed => ?_) installs
      exact (edit_eq_ok changed).2.trans same
  | some catalog =>
      rw [Workbench.session_perform_of_installs installs]
      rfl

/-- What holds of a plan at work at every moment. -/
structure Sound (bench : Workbench Plan) (catalog : Catalog) : Prop where
  idle : bench.busy = false
  wellFormed : bench.session.WellFormed
  catalog_eq : bench.session.catalog = catalog

theorem Sound.perform {catalog : Catalog} (sound : Sound bench catalog)
    (command : Command PlanEdit) :
    Sound (bench.perform deliver files command).bench (command.installs?.getD catalog) where
  idle := (Workbench.idle_perform sound.idle command).1
  wellFormed := wellFormed_perform sound.idle sound.wellFormed command
  catalog_eq := by rw [catalog_perform sound.idle, sound.catalog_eq]

theorem Sound.after {catalog : Catalog} (sound : Sound bench catalog)
    (commands : List (Command PlanEdit)) :
    Sound (bench.after deliver files commands).1 (latestCatalog catalog commands) := by
  induction commands generalizing bench files catalog with
  | nil => exact sound
  | cons command rest ih => exact ih (sound.perform command)

theorem sound_ofSession (catalog : Catalog) (configured : Option String) :
    Sound (.ofSession (ofCatalog catalog) configured) catalog :=
  ⟨rfl, wellFormed_ofCatalog catalog, rfl⟩

/-! ## What a request asks for -/

/-- The selections of a plan that is ready, as the service wants them. -/
theorem Sound.selections {catalog : Catalog} (sound : Sound bench catalog)
    (ready : bench.session.isReady = true) :
    1 ≤ bench.session.steps.length ∧
      ∀ names ∈ bench.session.steps.map (·.selection.names), names ≠ [] ∧
        names.Pairwise (· < ·) ∧ ∀ name ∈ names, name ∈ catalog.names := by
  obtain ⟨steps, selected⟩ := sound.wellFormed.isReady_iff.mp ready
  refine ⟨List.length_pos_iff.mpr steps, fun names mem => ?_⟩
  obtain ⟨step, inside, rfl⟩ := List.mem_map.mp mem
  refine ⟨selected step inside, sound.wellFormed.ascending step inside, fun name chosen => ?_⟩
  rw [← sound.catalog_eq]
  exact sound.wellFormed.offered step inside name chosen

/-- **The service only receives requests that it can make sense of.**  At any moment of any run a
command sends one request if it asks for an archive, given up or not, while the plan is ready, and
none otherwise.  The request is read as a sequence of the selections that the plan has just before,
step by step: at least one and at most twenty of them, each with names of the latest catalog in
ascending order, and none empty.  It names the project that was configured, trimmed, unless that is
blank. -/
theorem requests_of_run (deliver : Delivery) (first : Catalog) (configured : Option String)
    (files : FileTree) (past : List (Command PlanEdit)) (command : Command PlanEdit)
    (future : List (Command PlanEdit)) :
    let bench := Workbench.ofSession (ofCatalog first) configured
    let plan := (bench.after deliver files past).1.session
    ∃ turn, (bench.run deliver files (past ++ command :: future))[past.length]? = some turn ∧
      turn.requests.length = (if command.asks && plan.isReady then 1 else 0) ∧
      ∀ request ∈ turn.requests, ∃ parsed refinements,
        GenerationRequest.ofBody? request.body.toUTF8 = some parsed ∧
        parsed.payload = .steps refinements ∧
        1 ≤ refinements.length ∧ refinements.length ≤ 20 ∧
        (∀ k, refinements[k]? = (plan.step? (k + 1)).map (·.selection.names)) ∧
        (∀ names ∈ refinements, names ≠ [] ∧ names.Pairwise (· < ·) ∧
          ∀ name ∈ names, name ∈ (latestCatalog first past).names) ∧
        ∀ name, parsed.projectName? = some name ↔ ∃ raw, configured = some raw ∧
          (∃ c ∈ raw.toList, Text.isBlank c = false) ∧ name = Text.trimmed raw := by
  intro bench plan
  set before := (bench.after deliver files past).1 with before_def
  have sound : Sound before (latestCatalog first past) :=
    (sound_ofSession first configured).after past
  have project : before.projectName? = namedProject? configured :=
    (Workbench.idle_after rfl past).2
  refine ⟨_, Workbench.getElem?_run past command future, ?_, fun request mem => ?_⟩
  · rw [Workbench.requests_perform sound.idle]
    show (if command.asks && plan.isReady then [before.request] else []).length = _
    split <;> rfl
  · rw [Workbench.requests_perform sound.idle] at mem
    split at mem
    · rename_i asked
      obtain rfl := List.mem_singleton.mp mem
      obtain ⟨-, ready⟩ := Bool.and_eq_true_iff.mp asked
      obtain ⟨one, each⟩ := sound.selections ready
      refine ⟨before.request, plan.steps.map (·.selection.names),
        GenerationRequest.ofBody?_body _, rfl, ?_, ?_, fun k => ?_, each, fun name => ?_⟩
      · rw [List.length_map]
        exact one
      · rw [List.length_map]
        exact sound.wellFormed.length_le
      · rw [List.getElem?_map]
        rfl
      · show before.projectName? = some name ↔ _
        rw [project]
        exact namedProject?_eq_some_iff
    · exact absurd mem List.not_mem_nil

example : ((Workbench.ofSession (ofCatalog ⟨[]⟩) (some " Atlas ")).run (intoDirectory "out")
    (.empty ["home"]) [.reload (.ok ["north", "east"]), .edit (.configure 1),
      .edit (.toggle 1 "north"), .edit (.toggle 1 "east"), .abandon, .edit .clear,
      .abandon]).flatMap (·.requests) = [⟨some "Atlas", .steps [["east", "north"]]⟩] := by
  rfl

end Plan

end PatternRefinement
