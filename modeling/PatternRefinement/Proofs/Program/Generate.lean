import PatternRefinement.Proofs.Program.Basic
import PatternRefinement.Proofs.RequestRoundTrip
import PatternRefinement.Proofs.Service.Places
import PatternRefinement.Proofs.Workbench.PlanChoices

/-!
# Runs that generate from a plan

## Main Statements

* `Program.generate_of_fits` — a run asks once for what its texts list, if they fit
* `Program.generate_of_misfit` — a run asks for nothing and fails, if they do not
* `Program.generate_congr` — nothing else about the texts counts
* `Program.generate_asks_for_steps` — all of this together

## Design Notes

Everything here is about a run that has got a listing.  The rest of the run depends on the texts
through the plan that they lead to, and the plan through the names that each text lists.
-/

namespace PatternRefinement

namespace Plan

/-! ## Texts with the same names -/

/-- Each text that is related to one of some texts. -/
theorem exists_mem_of_forall₂ {steps others : List String} {R : String → String → Prop}
    (related : List.Forall₂ R steps others) {other : String} (mem : other ∈ others) :
    ∃ step ∈ steps, R step other := by
  induction related with
  | nil => cases mem
  | cons first _ ih =>
      rcases List.mem_cons.mp mem with rfl | later
      · exact ⟨_, List.mem_cons_self, first⟩
      · obtain ⟨step, inside, here⟩ := ih later
        exact ⟨step, List.mem_cons_of_mem _ inside, here⟩

variable {names : List PatternName} {steps others : List String} {count : Nat}

/-- Whether texts fit depends on the names that they list. -/
theorem Fits.congr (fits : Fits names steps count) (same : List.Forall₂ SameNames steps others) :
    Fits names others count := by
  have taken := List.forall₂_take count same
  have dropped := List.forall₂_drop count same
  refine ⟨same.length_eq ▸ fits.enough, ?_, ?_, ?_⟩
  · intro other mem
    obtain ⟨step, inside, alike⟩ := exists_mem_of_forall₂ taken mem
    obtain ⟨name, listed⟩ := fits.named step inside
    exact ⟨name, (alike name).mp listed⟩
  · intro other mem name listed
    obtain ⟨step, inside, alike⟩ := exists_mem_of_forall₂ taken mem
    exact fits.known step inside name ((alike name).mpr listed)
  · intro other mem name listed
    obtain ⟨step, inside, alike⟩ := exists_mem_of_forall₂ dropped mem
    exact fits.nothingElse step inside name ((alike name).mpr listed)

/-- Texts with the same names stand for the same selections. -/
theorem selections_eq {selections selected : List (List PatternName)}
    (chooses : List.Forall₂ (fun names step => Chooses names (Lists step)) selections steps)
    (choosesOther : List.Forall₂ (fun names step => Chooses names (Lists step)) selected others)
    (same : List.Forall₂ SameNames steps others) : selections = selected := by
  induction same generalizing selections selected with
  | nil =>
      cases chooses
      cases choosesOther
      rfl
  | cons alike _ ih =>
      cases chooses with
      | cons first rest =>
          cases choosesOther with
          | cons firstOther restOther =>
              rw [first.names_eq firstOther alike, ih rest restOther]

theorem wantedSteps_congr (same : List.Forall₂ SameNames steps others)
    (stepCount? : Option String) :
    wantedSteps others stepCount? = wantedSteps steps stepCount? := by
  cases stepCount? with
  | none => rw [wantedSteps, wantedSteps, same.length_eq]
  | some raw => rfl

end Plan

namespace Program

variable {words : List String} {surroundings : Surroundings} {line : CommandLine}
  {steps : List String} {stepCount? projectName? : Option String} {settings : Settings}
  {service : Service} {listed : List Exchange} {names : List PatternName} {count : Nat}

/-! ## One run -/

/-- What a run that generates from a plan does with the service. -/
def planProduction (settings : Settings) (surroundings : Surroundings) (steps : List String)
    (stepCount? : Option String) (service : Service) : List Exchange × Turn Plan :=
  (Workbench.ofSession Plan.empty settings.projectName?).produce
    (intoDirectory settings.downloadDirectory) surroundings.files service surroundings.network
    ((planEdits steps stepCount?).map .always)

theorem generate_eq (read : CommandLine.read words = .ok line)
    (job : line.job = .generate steps stepCount? projectName?)
    (loaded : Program.settings line surroundings = .ok settings)
    (usable : Service.ofUrl settings.serverUrl = .ok service) :
    let production := planProduction settings surroundings steps stepCount? service
    run words surroundings = .ofPerformance (.ofTurn production.1 production.2 fun _ => []) := by
  rw [run_eq read loaded, job, Job.perform, Job.withService_eq usable]
  rfl

/-- **Nothing is asked for, and the run fails**, if the texts do not fit. -/
theorem generate_of_misfit (read : CommandLine.read words = .ok line)
    (job : line.job = .generate steps stepCount? projectName?)
    (loaded : Program.settings line surroundings = .ok settings)
    (usable : Service.ofUrl settings.serverUrl = .ok service)
    (listing : service.list surroundings.network [] = (listed, .ok names))
    (misfit : ∀ count, Plan.wantedSteps steps stepCount? = .ok count →
      ¬Plan.Fits names steps count) :
    (run words surroundings).exchanges = listed ∧ (run words surroundings).exitCode = 1 := by
  obtain ⟨exchanges, failure, refused⟩ :
      (planProduction settings surroundings steps stepCount? service).1 = listed ∧ ∃ failure,
        (planProduction settings surroundings steps stepCount? service).2.Refused
          surroundings.files failure :=
    Workbench.produce_of_refused rfl listing
      (Plan.leavesFiles_always surroundings.files (planEdits steps stepCount?))
      (Plan.unready_of_not_fits surroundings.files misfit)
  rw [generate_eq read job loaded usable]
  constructor
  · rw [Outcome.exchanges_ofTurn, exchanges]
  · rw [Outcome.exitCode_ofTurn, refused.result_eq]
    rfl

/-- **The service is asked once, for what the texts list,** if they fit.  The run then ends as the
answer lets it. -/
theorem generate_of_fits (read : CommandLine.read words = .ok line)
    (job : line.job = .generate steps stepCount? projectName?)
    (loaded : Program.settings line surroundings = .ok settings)
    (usable : Service.ofUrl settings.serverUrl = .ok service)
    (listing : service.list surroundings.network [] = (listed, .ok names))
    (wanted : Plan.wantedSteps steps stepCount? = .ok count) (fits : Plan.Fits names steps count) :
    ∃ refinements,
      List.Forall₂ (fun names step => Chooses names (Lists step)) refinements
        (steps.take count) ∧
      let request := ⟨namedProject? settings.projectName?, .steps refinements⟩
      let answered := service.generate surroundings.network listed request
      (run words surroundings).exchanges = answered.1 ∧
        (run words surroundings).exitCode = if (Workbench.obtain
          (intoDirectory settings.downloadDirectory) surroundings.files count
            answered.2).2.isOk then 0 else 1 := by
  obtain ⟨plan, done, ready, length_eq, chooses⟩ :=
    Plan.prepared_of_fits surroundings.files wanted fits
  obtain ⟨exchanges, ended⟩ :
      (planProduction settings surroundings steps stepCount? service).1 = _ ∧
        (planProduction settings surroundings steps stepCount? service).2.Ended _ _ _ :=
    Workbench.produce_of_ready rfl listing
      (Plan.leavesFiles_always surroundings.files (planEdits steps stepCount?)) done ready
  refine ⟨_, chooses, ?_⟩
  intro request answered
  rw [generate_eq read job loaded usable]
  constructor
  · rw [Outcome.exchanges_ofTurn, exchanges]
    rfl
  · rw [Outcome.exitCode_ofTurn, ended.isOk_result, ← length_eq]
    rfl

/-! ## All runs -/

/-- The settings of a run do not depend on the texts. -/
theorem settings_congr (job : line.job = .generate steps stepCount? projectName?)
    (others : List String) :
    Program.settings { line with job := .generate others stepCount? projectName? } surroundings =
      Program.settings line surroundings := by
  simp [Program.settings, CommandLine.overrides, job, Job.projectName?]

/-- **How the names stand in the texts is of no account**: neither what is asked for nor how the run
ends depends on it. -/
theorem generate_congr {others rephrased : List String} (read : CommandLine.read words = .ok line)
    (job : line.job = .generate steps stepCount? projectName?)
    (loaded : Program.settings line surroundings = .ok settings)
    (usable : Service.ofUrl settings.serverUrl = .ok service)
    (listing : service.list surroundings.network [] = (listed, .ok names))
    (reread : CommandLine.read rephrased =
      .ok { line with job := .generate others stepCount? projectName? })
    (same : List.Forall₂ SameNames steps others) :
    (run rephrased surroundings).exchanges = (run words surroundings).exchanges ∧
      (run rephrased surroundings).exitCode = (run words surroundings).exitCode := by
  have reloaded := (settings_congr job others).trans loaded
  have rewanted := Plan.wantedSteps_congr same stepCount?
  by_cases fitting : ∃ count, Plan.wantedSteps steps stepCount? = .ok count ∧
      Plan.Fits names steps count
  · obtain ⟨count, wanted, fits⟩ := fitting
    obtain ⟨refinements, chooses, exchanges, exitCode⟩ :=
      generate_of_fits read job loaded usable listing wanted fits
    obtain ⟨selected, choosesOther, exchangesOther, exitCodeOther⟩ :=
      generate_of_fits reread rfl reloaded usable listing (rewanted.trans wanted)
        (fits.congr same)
    obtain rfl := Plan.selections_eq chooses choosesOther (List.forall₂_take count same)
    exact ⟨exchangesOther.trans exchanges.symm, exitCodeOther.trans exitCode.symm⟩
  · have back : List.Forall₂ SameNames others steps :=
      (same.imp fun _ _ alike => alike.symm).flip
    have misfit : ∀ count, Plan.wantedSteps steps stepCount? = .ok count →
        ¬Plan.Fits names steps count := fun count wanted fits => fitting ⟨count, wanted, fits⟩
    have misfitOther : ∀ count, Plan.wantedSteps others stepCount? = .ok count →
        ¬Plan.Fits names others count := fun count wanted fits =>
      misfit count (rewanted.symm.trans wanted) (fits.congr back)
    obtain ⟨exchanges, exitCode⟩ := generate_of_misfit read job loaded usable listing misfit
    obtain ⟨exchangesOther, exitCodeOther⟩ :=
      generate_of_misfit reread rfl reloaded usable listing misfitOther
    exact ⟨exchangesOther.trans exchanges.symm, exitCodeOther.trans exitCode.symm⟩

/-- **A run that generates from a plan asks for what its texts list, and for that only.**  After a
listing it asks once if the wanted number of steps is one that a plan may have and the texts fit it,
and not at all otherwise; then it fails.  What it asks for are, step by step, the names that the
text of the step lists, in ascending order.  How the names stand in the texts is of no account:
neither what is asked for nor how the run ends depends on it.

What is put to the network behind the request of a run is made by its client, where the service
redirects it: nothing if the service does not, and nothing that is asked for anew otherwise. -/
theorem generate_asks_for_steps (read : CommandLine.read words = .ok line)
    (job : line.job = .generate steps stepCount? projectName?)
    (loaded : Program.settings line surroundings = .ok settings)
    (usable : Service.ofUrl settings.serverUrl = .ok service)
    (listing : service.list surroundings.network [] = (listed, .ok names)) :
    let outcome := run words surroundings
    (∀ made ∈ listed, made.request.method = .get) ∧
    ((∀ count, Plan.wantedSteps steps stepCount? = .ok count → ¬Plan.Fits names steps count) →
      outcome.exchanges = listed ∧ outcome.exitCode = 1) ∧
    (∀ count, Plan.wantedSteps steps stepCount? = .ok count → Plan.Fits names steps count →
      (1 ≤ count ∧ count ≤ maxRefinementSteps) ∧
      ∃ address body reply hops refinements, service.place "generate" = .ok address ∧
        outcome.exchanges = listed ++ ⟨.post address body, reply⟩ :: hops ∧
        Hops ⟨.post address body, reply⟩ hops ∧
        (¬reply.Redirects → hops = []) ∧
        (∀ hop ∈ hops, hop.request.method = .post → hop.request.body = body) ∧
        GenerationRequest.ofBody? body.toUTF8 =
          some ⟨namedProject? settings.projectName?, .steps refinements⟩ ∧
        List.Forall₂ (fun names step => Chooses names (Lists step)) refinements
          (steps.take count)) ∧
    ∀ others rephrased,
      CommandLine.read rephrased =
        .ok { line with job := .generate others stepCount? projectName? } →
      List.Forall₂ SameNames steps others →
        (run rephrased surroundings).exchanges = outcome.exchanges ∧
          (run rephrased surroundings).exitCode = outcome.exitCode := by
  intro outcome
  refine ⟨Service.get_of_mem_list listing, generate_of_misfit read job loaded usable listing, ?_,
    fun others rephrased => generate_congr read job loaded usable listing⟩
  intro count wanted fits
  obtain ⟨refinements, chooses, exchanges, -⟩ :=
    generate_of_fits read job loaded usable listing wanted fits
  obtain ⟨address, found, -, sent⟩ := Service.generate_sends listing
  obtain ⟨hops, put, led⟩ := sent listed _
  exact ⟨(Plan.check_eq_ok (Plan.check_of_wantedSteps wanted)).2, address, _, _, hops, refinements,
    found, exchanges.trans put, led, led.eq_nil, led.body_eq, GenerationRequest.ofBody?_body _,
    chooses⟩

/-- A service with two patterns is asked for both of them, in whatever way they are listed. -/
theorem generate_asks_for_steps_rephrased :
    let network : Network := fun _ _ =>
      .answered ⟨200, [], "[\"north\",\"east\"]".toUTF8⟩ true
    let surroundings : Surroundings := ⟨⟨[], none⟩, .empty ["home"], network⟩
    let words (step : String) := ["--server-url", "http://[::1]/", "--download-dir", "out",
      "--state-file", "state.json", "generate", "--step", step]
    let outcome := run (words "north,east") surroundings
    (∃ sent ∈ outcome.exchanges, GenerationRequest.ofBody? sent.request.body.toUTF8 =
      some ⟨none, .steps [["east", "north"]]⟩) ∧
    (run (words " east ,,north,east") surroundings).exchanges = outcome.exchanges := by
  intro network surroundings words outcome
  let line (step : String) : CommandLine := {
    config? := none, serverUrl? := some "http://[::1]/", downloadDirectory? := some "out",
    statePath? := some "state.json", job := .generate [step] none none }
  have read : CommandLine.read (words "north,east") = .ok (line "north,east") := by
    decide +kernel
  have reread : CommandLine.read (words " east ,,north,east") =
      .ok (line " east ,,north,east") := by decide +kernel
  have loaded : Program.settings (line "north,east") surroundings =
      .ok ⟨"http://[::1]/", "out", "state.json", none⟩ := by decide +kernel
  let service : Service := ⟨{
    scheme := "http", authority? := some ⟨"", none, .ipv6 [0, 0, 0, 0, 0, 0, 0, 1], none⟩,
    path := .segments [""], query? := none, fragment? := none }⟩
  have usable : Service.ofUrl "http://[::1]/" = .ok service := by decide +kernel
  have named : (service.list network []).2 = .ok ["north", "east"] := by decide +kernel
  have split : splitNames "north,east" = ["north", "east"] := by decide +kernel
  have splitOther : splitNames " east ,,north,east" = ["east", "north"] := by decide +kernel
  have same : SameNames "north,east" " east ,,north,east" := by
    intro name
    rw [← mem_splitNames, ← mem_splitNames, split, splitOther]
    exact (List.Perm.swap "east" "north" []).mem_iff
  have fits : Plan.Fits ["north", "east"] ["north,east"] 1 := by
    refine ⟨Nat.le_refl 1, ?_, ?_, nofun⟩
    · intro step mem
      obtain rfl := List.mem_singleton.mp mem
      exact ⟨"north", mem_splitNames.mp (split ▸ List.mem_cons_self)⟩
    · intro step mem name listed
      obtain rfl := List.mem_singleton.mp mem
      exact split ▸ mem_splitNames.mpr listed
  have chooses : Chooses ["east", "north"] (Lists "north,east") := by
    refine ⟨by decide +kernel, fun name => ?_⟩
    rw [← mem_splitNames, split]
    exact (List.Perm.swap "north" "east" []).mem_iff
  obtain ⟨-, -, asks, rephrases⟩ :=
    generate_asks_for_steps read rfl loaded usable (Prod.ext rfl named)
  obtain ⟨-, address, body, reply, hops, refinements, -, exchanges, -, -, -, asked, chosen⟩ :=
    asks 1 (by decide +kernel) fits
  obtain rfl : refinements = [["east", "north"]] :=
    Plan.selections_eq chosen (.cons chooses .nil) (.cons (fun _ => Iff.rfl) .nil)
  refine ⟨⟨⟨.post address body, reply⟩, ?_, asked⟩, (rephrases _ _ reread (.cons same .nil)).1⟩
  exact exchanges ▸ List.mem_append_right _ List.mem_cons_self

end Program

end PatternRefinement
