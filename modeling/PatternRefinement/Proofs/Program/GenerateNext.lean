import PatternRefinement.Proofs.Counter.Outside
import PatternRefinement.Proofs.Program.Basic
import PatternRefinement.Proofs.RequestRoundTrip
import PatternRefinement.Proofs.Service.Places
import PatternRefinement.Proofs.Workbench.Choices

/-!
# Runs that generate the next refinement

## Main Definitions

* `Program.AsksForCounter` — a run that asks for the number that is stored in a state file

## Main Statements

* `Program.files_of_next_error` — a run that fails changes no file outside the download directory
* `Program.next_of_known`, `Program.next_of_unknown` — what a run asks for
* `Program.next_sends` — what is asked for is sent, once
* `Program.next_of_success` — what a run that succeeds prints and stores
* `Program.counter_of_success` — what the next run finds
* `Program.next_refinement_of_run` — all of this together

## Design Notes

The archive is saved before the number is stored.  So what has to be known of the state file is that
nothing that saving an archive can do keeps it from being written.
-/

namespace PatternRefinement

namespace Program

variable {words : List String} {surroundings : Surroundings} {line : CommandLine}
  {patterns : List String} {projectName? : Option String} {settings : Settings}
  {service : Service} {listed : List Exchange} {names : List PatternName}

/-! ## One run -/

/-- The session of a run that generates the next refinement. -/
def nextSession (settings : Settings) (surroundings : Surroundings) : NumberedSelection :=
  .load .empty ⟨settings.statePath⟩ surroundings.files

/-- What a run that generates the next refinement does with the service. -/
def nextProduction (settings : Settings) (surroundings : Surroundings) (patterns : List String)
    (service : Service) : List Exchange × Turn NumberedSelection :=
  (Workbench.ofSession (nextSession settings surroundings) settings.projectName?).produce
    (intoDirectory settings.downloadDirectory) surroundings.files service surroundings.network
    (selectionChoices patterns)

/-- What is told at the end of a run that has generated the next refinement. -/
def nextClosing (settings : Settings) (surroundings : Surroundings) (after : NumberedSelection) :
    List StatusMessage :=
  [.info (refinementText (nextSession settings surroundings).refinement after.refinement)]

theorem next_eq (read : CommandLine.read words = .ok line)
    (job : line.job = .generateSingle patterns projectName?)
    (loaded : Program.settings line surroundings = .ok settings)
    (usable : Service.ofUrl settings.serverUrl = .ok service) :
    let production := nextProduction settings surroundings patterns service
    run words surroundings = .ofPerformance
      (.ofTurn production.1 production.2 (nextClosing settings surroundings)) := by
  rw [run_eq read loaded, job, Job.perform, Job.withService_eq usable]
  rfl

/-- Saving an archive that fails changes no file outside the directory. -/
theorem file_iff_of_unsaved {folder : String} {files left : FileTree}
    (unsaved : left = files ∨ ∃ content name cause,
      intoDirectory folder files content name = (left, .error cause)) {location : Location}
    (outside : ¬left.EntryOf folder location) (content : ByteArray) :
    left.node? location = some (.file content) ↔
      files.node? location = some (.file content) := by
  rcases unsaved with rfl | ⟨archive, name, cause, saved⟩
  · exact Iff.rfl
  have confined := Download.save_confined folder name archive files location
  rw [show Download.save folder files archive name = (left, .error cause) from saved] at confined
  rcases confined with same | created | entry
  · rw [same]
  · rw [created.missing, created.created]
    exact ⟨nofun, nofun⟩
  · exact absurd entry outside

/-- **A run that fails changes no file outside the download directory**, whatever it fails for. -/
theorem files_of_next_error (read : CommandLine.read words = .ok line)
    (job : line.job = .generateSingle patterns projectName?)
    (loaded : Program.settings line surroundings = .ok settings)
    (failed : (run words surroundings).exitCode ≠ 0) {location : Location}
    (outside : ¬(run words surroundings).files.EntryOf settings.downloadDirectory location)
    (content : ByteArray) :
    (run words surroundings).files.node? location = some (.file content) ↔
      surroundings.files.node? location = some (.file content) := by
  cases usable : Service.ofUrl settings.serverUrl with
  | error failure =>
      have same : (run words surroundings).files = surroundings.files := by
        rw [run_eq read loaded, job, Job.perform, Job.withService_error usable]
        rfl
      rw [same]
  | ok service =>
      rw [next_eq read job loaded usable, Outcome.exitCode_ofTurn] at failed
      rw [next_eq read job loaded usable, Outcome.files_ofTurn] at outside ⊢
      cases result : (nextProduction settings surroundings patterns service).2.result with
      | ok answer =>
          rw [result] at failed
          exact absurd rfl failed
      | error failure =>
          have left : _ ∨ _ := Workbench.files_of_produce_error rfl
            (NumberedSelection.leavesFiles_selectionChoices surroundings.files patterns) result
          exact file_iff_of_unsaved left outside content

/-! ## What a run asks for -/

/-- **Nothing is asked for, and the run fails**, unless all names are known and there is one. -/
theorem next_of_unknown (read : CommandLine.read words = .ok line)
    (job : line.job = .generateSingle patterns projectName?)
    (loaded : Program.settings line surroundings = .ok settings)
    (usable : Service.ofUrl settings.serverUrl = .ok service)
    (listing : service.list surroundings.network [] = (listed, .ok names))
    (unknown : ¬NumberedSelection.Known names patterns) :
    (run words surroundings).exchanges = listed ∧ (run words surroundings).exitCode = 1 := by
  obtain ⟨exchanges, failure, refused⟩ :
      (nextProduction settings surroundings patterns service).1 = listed ∧ ∃ failure,
        (nextProduction settings surroundings patterns service).2.Refused
          surroundings.files failure :=
    Workbench.produce_of_refused rfl listing
      (NumberedSelection.leavesFiles_selectionChoices surroundings.files patterns)
      (NumberedSelection.unready_of_unknown surroundings.files rfl unknown)
  rw [next_eq read job loaded usable]
  constructor
  · rw [Outcome.exchanges_ofTurn, exchanges]
  · rw [Outcome.exitCode_ofTurn, refused.result_eq]
    rfl

/-- **The service is asked once, for the names that are listed,** if all are known and there is
one. -/
theorem next_of_known (settings : Settings)
    (listing : service.list surroundings.network [] = (listed, .ok names))
    (known : NumberedSelection.Known names patterns) :
    ∃ selection,
      Chooses selection.names (NumberedSelection.AnyLists patterns) ∧
      let session := (nextSession settings surroundings).listedWith names selection
      let request := ⟨namedProject? settings.projectName?, session.payload⟩
      let answered := service.generate surroundings.network listed request
      let production := nextProduction settings surroundings patterns service
      production.1 = answered.1 ∧
        production.2.Ended session request (Workbench.obtain
          (intoDirectory settings.downloadDirectory) surroundings.files 1 answered.2) := by
  obtain ⟨selection, done, ready, chooses⟩ :=
    (nextSession settings surroundings).prepared_of_known surroundings.files rfl known
  exact ⟨selection, chooses, Workbench.produce_of_ready rfl listing
    (NumberedSelection.leavesFiles_selectionChoices surroundings.files patterns) done ready⟩

/-- What is asked for is sent, and the run succeeds if its client hands back a whole response with
an archive that can be saved. -/
theorem next_sends (read : CommandLine.read words = .ok line)
    (job : line.job = .generateSingle patterns projectName?)
    (loaded : Program.settings line surroundings = .ok settings)
    (usable : Service.ofUrl settings.serverUrl = .ok service)
    (listing : service.list surroundings.network [] = (listed, .ok names))
    (known : NumberedSelection.Known names patterns) :
    ∃ address body reply hops selection, service.place "generate" = .ok address ∧
      (run words surroundings).exchanges = listed ++ ⟨.post address body, reply⟩ :: hops ∧
      Hops ⟨.post address body, reply⟩ hops ∧
      (¬reply.Redirects → hops = [] ∧ ∃ origin,
        HandsBack surroundings.network maxRedirects listed (.post address body) origin reply) ∧
      GenerationRequest.ofBody? body.toUTF8 = some ⟨namedProject? settings.projectName?,
        .single (CounterStore.load ⟨settings.statePath⟩ surroundings.files) selection⟩ ∧
      Chooses selection (NumberedSelection.AnyLists patterns) ∧
      ∀ origin response archive savedTo,
        HandsBack surroundings.network maxRedirects listed (.post address body) origin
          (.answered response true) →
        Archive.ofResponse response 1 = .ok archive →
        (intoDirectory settings.downloadDirectory surroundings.files archive.content
          archive.fileName).2 = .ok savedTo →
        (run words surroundings).exitCode = 0 := by
  obtain ⟨selection, chooses, exchanges, ended⟩ := next_of_known settings listing known
  obtain ⟨address, found, sendable, sent⟩ := Service.generate_sends listing
  let request : GenerationRequest := ⟨namedProject? settings.projectName?,
    ((nextSession settings surroundings).listedWith names selection).payload⟩
  obtain ⟨hops, put, led⟩ := sent listed request
  refine ⟨address, request.body, surroundings.network listed (.post address request.body), hops,
    selection.names, found, ?_, led,
    fun direct => ⟨led.eq_nil direct, address.withoutUser, .direct sendable direct⟩,
    GenerationRequest.ofBody?_body request, chooses, ?_⟩
  · rw [next_eq read job loaded usable, Outcome.exchanges_ofTurn, exchanges]
    exact put
  · intro origin response archive savedTo back archived saved
    have answer_eq : (service.generate surroundings.network listed request).2 = .ok response :=
      Service.generate_of_handsBack found back
    rw [next_eq read job loaded usable, Outcome.exitCode_ofTurn, ended.isOk_result, answer_eq,
      Workbench.isOk_obtain archived saved]
    rfl

/-- **A run that succeeds tells the number it has used and the one that follows**, and stores the
latter after the archive was saved. -/
theorem next_of_success (read : CommandLine.read words = .ok line)
    (job : line.job = .generateSingle patterns projectName?)
    (loaded : Program.settings line surroundings = .ok settings)
    (usable : Service.ofUrl settings.serverUrl = .ok service)
    (listing : service.list surroundings.network [] = (listed, .ok names))
    (succeeded : (run words surroundings).exitCode = 0) :
    let store : CounterStore := ⟨settings.statePath⟩
    let label := store.load surroundings.files
    (∃ before, (run words surroundings).output =
      before ++ (refinementText label (nextRefinement label) ++ "\n")) ∧
    ∃ delivered, (delivered = surroundings.files ∨ ∃ content name, delivered =
        (intoDirectory settings.downloadDirectory surroundings.files content name).1) ∧
      (run words surroundings).files = store.save (nextRefinement label) delivered := by
  intro store label
  by_cases known : NumberedSelection.Known names patterns
  swap
  · have failed := (next_of_unknown read job loaded usable listing known).2
    cases succeeded.symm.trans failed
  obtain ⟨selection, -, -, ended⟩ := next_of_known settings listing known
  have saved := Workbench.files_obtain (intoDirectory settings.downloadDirectory)
    surroundings.files 1 (service.generate surroundings.network listed
      ⟨namedProject? settings.projectName?,
        ((nextSession settings surroundings).listedWith names selection).payload⟩).2
  generalize Workbench.obtain (intoDirectory settings.downloadDirectory) surroundings.files 1 _ =
    obtained at saved ended
  rw [next_eq read job loaded usable] at succeeded ⊢
  rw [Outcome.exitCode_ofTurn, ended.isOk_result] at succeeded
  rw [Outcome.files_ofTurn]
  cases outcome : obtained.2 with
  | error failure =>
      rw [outcome] at succeeded
      cases succeeded
  | ok report =>
      obtain ⟨result, recorded⟩ := ended.saved report outcome
      obtain ⟨session_eq, files_eq⟩ := Prod.mk.inj recorded
      refine ⟨⟨outputText (nextProduction settings surroundings patterns service).2.messages, ?_⟩,
        obtained.1, saved, files_eq⟩
      simp only [Outcome.ofPerformance, Performance.ofTurn, result, outputText_append, nextClosing,
        outputText_info, session_eq]
      rfl

/-! ## All runs -/

/-- A run that asks for the number that is stored in a state file. -/
def AsksForCounter (statePath : String) (words : List String) (surroundings : Surroundings) :
    Prop :=
  ∃ line settings, CommandLine.read words = .ok line ∧ line.job = .counter ∧
    Program.settings line surroundings = .ok settings ∧ settings.statePath = statePath

theorem output_of_asksForCounter {statePath : String}
    (asks : AsksForCounter statePath words surroundings) : (run words surroundings).output =
      nextRefinementText (CounterStore.load ⟨statePath⟩ surroundings.files) ++ "\n" := by
  obtain ⟨line, settings, read, job, loaded, rfl⟩ := asks
  exact counter_output read job loaded

/-- **The number that follows is found by the next run**, if the state file could be written and is
outside the download directory. -/
theorem counter_of_success (read : CommandLine.read words = .ok line)
    (job : line.job = .generateSingle patterns projectName?)
    (loaded : Program.settings line surroundings = .ok settings)
    (usable : Service.ofUrl settings.serverUrl = .ok service)
    (listing : service.list surroundings.network [] = (listed, .ok names))
    (succeeded : (run words surroundings).exitCode = 0)
    (writable : CounterStore.Writable ⟨settings.statePath⟩ surroundings.files)
    (outside : CounterStore.Outside ⟨settings.statePath⟩ settings.downloadDirectory
      surroundings.files) {again : List String} {later : Surroundings}
    (files_later : later.files = (run words surroundings).files)
    (asks : AsksForCounter settings.statePath again later) :
    let label := CounterStore.load ⟨settings.statePath⟩ surroundings.files
    (run again later).output = nextRefinementText (nextRefinement label) ++ "\n" := by
  intro label
  obtain ⟨-, delivered, saved, files_eq⟩ :=
    next_of_success read job loaded usable listing succeeded
  have positive : 1 ≤ (nextRefinement label).toNat := by
    rw [toNat_nextRefinement]
    omega
  rw [output_of_asksForCounter asks, files_later, files_eq,
    CounterStore.load_save (outside.delivered writable saved) positive]

/-- **A run that generates the next refinement asks for what its texts list, and counts on.**

A run that fails, at whatever point, changes no file outside the download directory.

After a listing a run asks once if its texts list a name and all names that they list are known, and
not at all otherwise; then it fails.  What it asks for are these names, in ascending order, with the
number that was stored before.  It succeeds if its client hands back a whole response with an
archive that can be saved.  A reply that redirects nobody is handed back, and nothing is put to the
network behind it; otherwise the client goes where it is led.

A run that succeeds tells its number and the next one, which is one more as long as 32 bits hold it.
If the state file could be written and is outside the download directory, the next run that asks for
the stored number is told the next one. -/
theorem next_refinement_of_run (read : CommandLine.read words = .ok line)
    (job : line.job = .generateSingle patterns projectName?)
    (loaded : Program.settings line surroundings = .ok settings) :
    let outcome := run words surroundings
    let store : CounterStore := ⟨settings.statePath⟩
    let label := store.load surroundings.files
    (outcome.exitCode ≠ 0 → ∀ location,
      ¬outcome.files.EntryOf settings.downloadDirectory location →
      ∀ content, outcome.files.node? location = some (.file content) ↔
        surroundings.files.node? location = some (.file content)) ∧
    (nextRefinement label).toNat = min (2 ^ 32 - 1) (label.toNat + 1) ∧
    ∀ service listed names, Service.ofUrl settings.serverUrl = .ok service →
      service.list surroundings.network [] = (listed, .ok names) →
      (∀ made ∈ listed, made.request.method = .get) ∧
      (¬NumberedSelection.Known names patterns →
        outcome.exchanges = listed ∧ outcome.exitCode = 1) ∧
      (NumberedSelection.Known names patterns →
        ∃ address body reply hops selection, service.place "generate" = .ok address ∧
          outcome.exchanges = listed ++ ⟨.post address body, reply⟩ :: hops ∧
          Hops ⟨.post address body, reply⟩ hops ∧
          (¬reply.Redirects → hops = [] ∧ ∃ origin,
            HandsBack surroundings.network maxRedirects listed (.post address body) origin reply) ∧
          GenerationRequest.ofBody? body.toUTF8 =
            some ⟨namedProject? settings.projectName?, .single label selection⟩ ∧
          Chooses selection (NumberedSelection.AnyLists patterns) ∧
          ∀ origin response archive savedTo,
            HandsBack surroundings.network maxRedirects listed (.post address body) origin
              (.answered response true) →
            Archive.ofResponse response 1 = .ok archive →
            (intoDirectory settings.downloadDirectory surroundings.files archive.content
              archive.fileName).2 = .ok savedTo →
            outcome.exitCode = 0) ∧
      (outcome.exitCode = 0 →
        (∃ before, outcome.output =
          before ++ (refinementText label (nextRefinement label) ++ "\n")) ∧
        (store.Writable surroundings.files →
          store.Outside settings.downloadDirectory surroundings.files →
          ∀ again later, later.files = outcome.files →
            AsksForCounter settings.statePath again later →
            (run again later).output = nextRefinementText (nextRefinement label) ++ "\n")) := by
  intro outcome store label
  refine ⟨?_, toNat_nextRefinement label, ?_⟩
  · intro failed location outside content
    exact files_of_next_error read job loaded failed outside content
  intro service listed names usable listing
  refine ⟨Service.get_of_mem_list listing, next_of_unknown read job loaded usable listing,
    next_sends read job loaded usable listing, fun succeeded => ?_⟩
  refine ⟨(next_of_success read job loaded usable listing succeeded).1, ?_⟩
  intro writable outside again later files_later asks
  exact counter_of_success read job loaded usable listing succeeded writable outside files_later
    asks

/-- A first run for a pattern that is listed twice, with a state file in a directory that is
missing, and the number that the next run finds. -/
theorem next_refinement_of_run_twice :
    let network : Network := fun _ _ => .answered ⟨200, [], "[\"north\"]".toUTF8⟩ true
    let surroundings : Surroundings := ⟨⟨[], none⟩, .empty ["home"], network⟩
    let options := ["--server-url", "http://[::1]/", "--download-dir", "out",
      "--state-file", "state/counter.json"]
    let outcome := run (options ++ ["generate-single", "--pattern", "north, north"]) surroundings
    (∃ before, outcome.output = before ++ "refinement 1 generated; next is 2\n") ∧
      (run (options ++ ["counter"]) ⟨⟨[], none⟩, outcome.files, network⟩).output =
        "next refinement: 2\n" := by
  intro network surroundings options outcome
  let settings : Settings := ⟨"http://[::1]/", "out", "state/counter.json", none⟩
  let line (job : Job) : CommandLine :=
    ⟨none, some "http://[::1]/", some "out", some "state/counter.json", job⟩
  let service : Service := ⟨{
    scheme := "http", authority? := some ⟨"", none, .ipv6 [0, 0, 0, 0, 0, 0, 0, 1], none⟩,
    path := .segments [""], query? := none, fragment? := none }⟩
  let store : CounterStore := ⟨settings.statePath⟩
  have read : CommandLine.read (options ++ ["generate-single", "--pattern", "north, north"]) =
      .ok (line (.generateSingle ["north, north"] none)) := by decide +kernel
  have loaded : Program.settings (line (.generateSingle ["north, north"] none)) surroundings =
      .ok settings := by decide +kernel
  have usable : Service.ofUrl settings.serverUrl = .ok service := by decide +kernel
  have named : (service.list network []).2 = .ok ["north"] := by decide +kernel
  have run_eq : run (options ++ ["generate-single", "--pattern", "north, north"]) surroundings =
      outcome := rfl
  have succeeded : outcome.exitCode = 0 := by decide +kernel
  have again : Program.settings (line .counter) ⟨⟨[], none⟩, outcome.files, network⟩ =
      .ok settings := by decide +kernel
  have writable : store.Writable surroundings.files :=
    CounterStore.writable_of_write .empty (by decide +kernel) (by decide +kernel)
  have outside : store.Outside settings.downloadDirectory surroundings.files := by
    have names_eq : Path.names store.path = ["state", "counter.json"] := by decide +kernel
    have start_eq : surroundings.files.start store.path = ["home"] := by decide +kernel
    have leads : surroundings.files.destination settings.downloadDirectory = ["home", "out"] := by
      decide +kernel
    refine ⟨fun location passes name => ?_, by decide +kernel⟩
    rw [names_eq, start_eq, FileTree.passes_cons, FileTree.passes_cons] at passes
    rw [leads]
    rcases passes with ⟨-, -, rfl⟩ | ⟨-, -, rfl⟩ | behind
    · simp
    · simp [FileTree.step]
    · exact absurd behind FileTree.not_passes_nil
  -- What the run came to is known now; it must not be run again to compare it with itself.
  clear_value outcome
  obtain ⟨-, -, listing⟩ := next_refinement_of_run read rfl loaded
  obtain ⟨-, -, -, counts⟩ := listing service _ _ usable (Prod.ext rfl named)
  rw [run_eq] at counts
  obtain ⟨⟨before, printed⟩, stored⟩ := counts succeeded
  have first : store.load surroundings.files = 1 := by decide +kernel
  have told : refinementText 1 (nextRefinement 1) ++ "\n" =
      "refinement 1 generated; next is 2\n" := by decide +kernel
  have found : nextRefinementText (nextRefinement 1) ++ "\n" = "next refinement: 2\n" := by
    decide +kernel
  rw [first, told] at printed
  rw [first, found] at stored
  exact ⟨⟨before, printed⟩, stored writable outside _ _ rfl
    ⟨line .counter, settings, by decide +kernel, rfl, again, rfl⟩⟩

end Program

end PatternRefinement
