import PatternRefinement.Proofs.Program.Generate
import PatternRefinement.Proofs.Program.GenerateNext
import PatternRefinement.Proofs.Workbench.Visits

/-!
# How runs end

## Main Definitions

* `Job.generates` — whether a job generates an archive
* `Performance.Sound` — what is told, asked for and left agrees with whether a job is done

## Main Statements

* `Job.sound_perform` — every job, with any settings
* `Outcome.exitCode_eq_one_iff` — a run ends with 1 exactly if something is told on the error output
* `Program.endings_agree` — how a run ends, what it tells, what it asks for and what it leaves

## Design Notes

A failure is found where a job is carried out, told on the way, and turned into the number that the
run ends with at the very end.  Each kind of job is looked at once, and everything else is about a
performance with `Performance.Sound` only.
-/

namespace PatternRefinement

/-! ## The error output -/

/-- Something is told on the error output if there is a message about a failure. -/
theorem errorText_eq_empty_iff (messages : List StatusMessage) :
    errorText messages = "" ↔ ¬∃ message ∈ messages, message.isError = true := by
  induction messages with
  | nil => exact ⟨fun _ => nofun, fun _ => rfl⟩
  | cons message rest ih =>
      rw [List.exists_mem_cons_iff, not_or, ← ih]
      cases error : message.isError with
      | false => simp [errorText, error]
      | true => simp [errorText, error, String.join_cons]

namespace Job

/-- Whether a job generates an archive. -/
def generates : Job → Bool
  | .generate _ _ _ => true
  | .generateSingle _ _ => true
  | .patterns => false
  | .counter => false
  | .resetCounter => false

end Job

/-! ## What a job comes to -/

/-- What is told, asked for and left agrees with whether a job is done. -/
structure Performance.Sound (settings : Settings) (surroundings : Surroundings)
    (generates : Prop) (performance : Performance) : Prop where
  failed_iff : performance.succeeded = false ↔
    ∃ message ∈ performance.messages, message.isError = true
  /-- Nothing is asked for, or the service of the settings is visited. -/
  visited : performance.exchanges = [] ∨
    ∃ service asked, Service.ofUrl settings.serverUrl = .ok service ∧
      service.Visited surroundings.network generates asked performance.exchanges
  /-- A job that nothing comes of leaves the files as they were, or as they are when an archive
  could not be saved. -/
  unsaved : performance.succeeded = false → performance.files = surroundings.files ∨
    ∃ content name cause, intoDirectory settings.downloadDirectory surroundings.files content name =
      (performance.files, .error cause)

section Sound

variable {settings : Settings} {surroundings : Surroundings} {generates : Prop}

theorem Performance.sound_done (files : FileTree) (text : String) :
    (Performance.done files text).Sound settings surroundings generates where
  failed_iff := by simp [done, StatusMessage.info, StatusMessage.isError]
  visited := Or.inl rfl
  unsaved := nofun

theorem Performance.sound_failed (failure : Failure) :
    (Performance.failed surroundings.files failure).Sound settings surroundings generates where
  failed_iff := ⟨fun _ => ⟨_, List.mem_singleton_self _, rfl⟩, fun _ => rfl⟩
  visited := Or.inl rfl
  unsaved := fun _ => Or.inl rfl

/-- A job that ends with a frank turn, and tells of no failure behind it. -/
theorem Performance.sound_ofTurn {S : Type} {exchanges : List Exchange} {turn : Turn S}
    {closing : S → List StatusMessage} {service : Service} (frank : turn.Frank)
    (calm : ∀ session, ∀ message ∈ closing session, message.isError = false)
    (usable : Service.ofUrl settings.serverUrl = .ok service)
    (visited : ∃ asked, service.Visited surroundings.network generates asked exchanges)
    (unsaved : ∀ failure, turn.result = .error failure → turn.files = surroundings.files ∨
      ∃ content name cause, intoDirectory settings.downloadDirectory surroundings.files content
        name = (turn.files, .error cause)) :
    (Performance.ofTurn exchanges turn closing).Sound settings surroundings generates := by
  have told := frank.failed_iff
  obtain ⟨asked, visited⟩ := visited
  unfold ofTurn
  cases result : turn.result with
  | error failure =>
      refine ⟨?_, Or.inr ⟨service, asked, usable, visited⟩, fun _ => unsaved failure result⟩
      exact ⟨fun _ => told.mp ⟨failure, result⟩, fun _ => rfl⟩
  | ok answer =>
      refine ⟨⟨nofun, fun ⟨message, mem, error⟩ => ?_⟩,
        Or.inr ⟨service, asked, usable, visited⟩, nofun⟩
      rcases List.mem_append.mp mem with early | late
      · obtain ⟨failure, failed⟩ := told.mpr ⟨message, early, error⟩
        cases result.symm.trans failed
      · cases (calm _ message late).symm.trans error

/-- A job that needs a service fails without one. -/
theorem Job.sound_withService {job : Service → Performance}
    (sound : ∀ service, Service.ofUrl settings.serverUrl = .ok service →
      (job service).Sound settings surroundings generates) :
    (Job.withService settings surroundings job).Sound settings surroundings generates := by
  cases usable : Service.ofUrl settings.serverUrl with
  | error failure =>
      rw [Job.withService_error usable]
      exact Performance.sound_failed failure
  | ok service =>
      rw [Job.withService_eq usable]
      exact sound service usable

theorem Job.sound_listPatterns {service : Service}
    (usable : Service.ofUrl settings.serverUrl = .ok service) :
    (Job.listPatterns surroundings service).Sound settings surroundings generates := by
  have visited : ∃ asked, service.Visited surroundings.network generates asked _ :=
    service.visited_list surroundings.network
  unfold listPatterns Workbench.reloadFrom
  cases listing : service.list surroundings.network [] with
  | mk listed outcome =>
      rw [listing] at visited
      refine Performance.sound_ofTurn (Workbench.frank_reload rfl _) ?_ usable visited
        fun failure failed => Or.inl ?_
      · intro plan message mem
        obtain ⟨name, -, rfl⟩ := List.mem_map.mp mem
        rfl
      · cases outcome <;> rfl

/-- A job that ends with a production, and tells of no failure behind it. -/
theorem Performance.sound_ofProduction {S Edit : Type} [EditableSession S Edit]
    {production : List Exchange × Turn S} {bench : Workbench S}
    {choices : List (Choice S Edit)}
    {closing : S → List StatusMessage} {service : Service}
    (produced : bench.produce (intoDirectory settings.downloadDirectory) surroundings.files service
      surroundings.network choices = production)
    (idle : bench.busy = false)
    (confirmed : ∀ (session : S) (files : FileTree) (change : Edit) (next : Edited S),
      EditableSession.edit session files change = .ok next →
        ∀ message ∈ next.message?, message.isError = false)
    (leaves : ∀ choice ∈ choices, LeavesFiles surroundings.files choice)
    (calm : ∀ session, ∀ message ∈ closing session, message.isError = false)
    (allowed : generates) (usable : Service.ofUrl settings.serverUrl = .ok service) :
    (Performance.ofTurn production.1 production.2 closing).Sound settings surroundings
      generates := by
  subst produced
  exact sound_ofTurn
    (Workbench.frank_produce _ service surroundings.network idle confirmed choices) calm usable
    (Workbench.visited_produce _ service surroundings.network allowed idle leaves)
    fun failure failed => Workbench.files_of_produce_error idle leaves failed

theorem Job.sound_generatePlan {service : Service} (allowed : generates)
    (usable : Service.ofUrl settings.serverUrl = .ok service) (steps : List String)
    (stepCount? : Option String) :
    (Job.generatePlan settings surroundings steps stepCount? service).Sound settings surroundings
      generates := by
  unfold generatePlan
  exact Performance.sound_ofProduction rfl rfl Plan.confirmed_edit
    (Plan.leavesFiles_always surroundings.files (planEdits steps stepCount?))
    (fun _ => List.forall_mem_nil _) allowed usable

theorem Job.sound_generateNext {service : Service} (allowed : generates)
    (usable : Service.ofUrl settings.serverUrl = .ok service) (patterns : List String) :
    (Job.generateNext settings surroundings patterns service).Sound settings surroundings
      generates := by
  unfold generateNext
  refine Performance.sound_ofProduction rfl rfl NumberedSelection.confirmed_edit
    (NumberedSelection.leavesFiles_selectionChoices surroundings.files patterns)
    (fun after message mem => ?_) allowed usable
  obtain rfl := List.mem_singleton.mp mem
  rfl

/-- **Whatever a job comes to, what is told, asked for and left agrees.** -/
theorem Job.sound_perform (settings : Settings) (surroundings : Surroundings) (job : Job) :
    (job.perform settings surroundings).Sound settings surroundings (job.generates = true) := by
  unfold perform
  cases job with
  | patterns => exact sound_withService fun _ => sound_listPatterns
  | generate steps stepCount? projectName? =>
      exact sound_withService fun _ usable => sound_generatePlan rfl usable steps stepCount?
  | generateSingle patterns projectName? =>
      exact sound_withService fun _ usable => sound_generateNext rfl usable patterns
  | counter => exact Performance.sound_done _ _
  | resetCounter => exact Performance.sound_done _ _

/-- A job that neither lists patterns nor generates an archive asks for nothing. -/
theorem Job.exchanges_of_counter {job : Job} (offline : job = .counter ∨ job = .resetCounter) :
    (job.perform settings surroundings).exchanges = [] := by
  rcases offline with rfl | rfl <;> rfl

end Sound

/-! ## What a run leaves -/

namespace Outcome

variable {performance : Performance} {settings : Settings} {surroundings : Surroundings}
  {generates : Prop}

/-- **A run ends with 1 exactly if something is told on the error output.** -/
theorem exitCode_eq_one_iff (sound : performance.Sound settings surroundings generates) :
    (ofPerformance performance).exitCode = 1 ↔ (ofPerformance performance).errors ≠ "" := by
  rw [ofPerformance, Ne, errorText_eq_empty_iff, not_not, ← sound.failed_iff]
  cases performance.succeeded <;> simp

/-- A run with settings ends with 0 or with 1. -/
theorem exitCode_ofPerformance (performance : Performance) :
    (ofPerformance performance).exitCode = 0 ∨ (ofPerformance performance).exitCode = 1 := by
  rw [ofPerformance]
  cases performance.succeeded with
  | true => exact Or.inl rfl
  | false => exact Or.inr rfl

theorem succeeded_of_exitCode (failed : (ofPerformance performance).exitCode = 1) :
    performance.succeeded = false := by
  rw [ofPerformance] at failed
  cases done : performance.succeeded with
  | false => rfl
  | true =>
      rw [done] at failed
      cases failed

end Outcome

/-- A file that is outside a directory is found at its path, with its content, when an archive could
not be saved there. -/
theorem FileTree.status_of_unsaved {folder path : String} {files left : FileTree}
    (unsaved : left = files ∨ ∃ content name cause,
      intoDirectory folder files content name = (left, .error cause)) {location : Location}
    {content : ByteArray} (outside : ¬left.EntryOf folder location)
    (stands : files.status path = .ok (location, .file content)) :
    left.status path = .ok (location, .file content) := by
  obtain ⟨place, here⟩ := status_eq_file_iff.mp stands
  have kept := (Program.file_iff_of_unsaved unsaved outside content).mpr here
  refine status_eq_file_iff.mpr ⟨place.of_keeps ?_ fun directory => ?_, kept⟩
  · rcases unsaved with rfl | ⟨archive, name, cause, saved⟩
    · exact (SameDirectories.refl _).keeps
    · have ending := (Download.save_ending folder name archive files).sameDirectories.keeps
      rw [show Download.save folder files archive name = (left, .error cause) from saved] at ending
      exact (files.makeDirectories_grown folder).keeps.trans ending
  · cases directory.symm.trans kept

/-! ## All runs -/

namespace Program

/-- **How a run ends, what it tells, what it asks for and what it leaves agree**, whatever the
command line says, as long as it can be read.

The run ends with 0 or with 1, and with 1 exactly if something is told on the error output.  It asks
for nothing, or for the patterns of the service that its settings name; then, after a listing, it
may ask for an archive once, if that is its job.  A run about the counter asks for nothing.  What is
put to the network is what the run asks for, and behind each request only what its client was led to
by a reply that redirects it.

A run that ends with 1 changes no file outside the download directory: the same files stand at the
same places with the same content, and the state file is found there if it was found before. -/
theorem endings_agree {words : List String} {line : CommandLine}
    (read : CommandLine.read words = .ok line) (surroundings : Surroundings) :
    let outcome := run words surroundings
    (outcome.exitCode = 0 ∨ outcome.exitCode = 1) ∧
    (outcome.exitCode = 1 ↔ outcome.errors ≠ "") ∧
    (∃ asked : List WebRequest, asked.map (·.method) <+: [.get, .post] ∧
      ((∀ made ∈ outcome.exchanges, ¬made.reply.Redirects) →
        outcome.exchanges.map (·.request) = asked) ∧
      (asked = [] ∧ outcome.exchanges = [] ∨ ∃ settings service,
        Program.settings line surroundings = .ok settings ∧
        Service.ofUrl settings.serverUrl = .ok service ∧
        service.Visited surroundings.network (line.job.generates = true) asked
          outcome.exchanges)) ∧
    (line.job = .counter ∨ line.job = .resetCounter → outcome.exchanges = []) ∧
    (outcome.exitCode = 1 →
      (∀ failure, Program.settings line surroundings = .error failure →
        outcome.files = surroundings.files) ∧
      ∀ settings, Program.settings line surroundings = .ok settings →
        ∀ location, ¬outcome.files.EntryOf settings.downloadDirectory location →
        ∀ content,
          (outcome.files.node? location = some (.file content) ↔
            surroundings.files.node? location = some (.file content)) ∧
          (surroundings.files.status settings.statePath = .ok (location, .file content) →
            outcome.files.status settings.statePath = .ok (location, .file content))) := by
  intro outcome
  cases loaded : Program.settings line surroundings with
  | error failure =>
      have same : outcome = .ofSettingsFailure surroundings.files failure := by
        simp only [outcome, run, read, loaded]
      rw [same]
      refine ⟨Or.inr rfl, ⟨fun _ => ?_, fun _ => rfl⟩,
        ⟨[], List.nil_prefix, fun _ => rfl, Or.inl ⟨rfl, rfl⟩⟩, fun _ => rfl,
        fun _ => ⟨fun _ _ => rfl, fun _ other => ?_⟩⟩
      · simp [Outcome.ofSettingsFailure]
      · cases other
  | ok settings =>
      have same : outcome = .ofPerformance (line.job.perform settings surroundings) :=
        run_eq read loaded
      have sound := Job.sound_perform settings surroundings line.job
      rw [same]
      refine ⟨Outcome.exitCode_ofPerformance _, Outcome.exitCode_eq_one_iff sound, ?_,
        Job.exchanges_of_counter, fun failed => ⟨fun _ other => ?_, ?_⟩⟩
      · rcases sound.visited with nothing | ⟨service, asked, usable, visited⟩
        · refine ⟨[], List.nil_prefix, fun _ => ?_, Or.inl ⟨rfl, nothing⟩⟩
          rw [Outcome.ofPerformance, nothing]
          rfl
        · exact ⟨asked, visited.methods, visited.requests_eq,
            Or.inr ⟨settings, service, rfl, usable, visited⟩⟩
      · cases other
      · rintro _ ⟨⟩ location outside content
        have unsaved := sound.unsaved (Outcome.succeeded_of_exitCode failed)
        exact ⟨file_iff_of_unsaved unsaved outside content,
          FileTree.status_of_unsaved unsaved outside⟩

/-- A service lists its patterns and cannot be reached any more when it is to generate.  The run
tells so, and the state file is what it was. -/
theorem endings_agree_unreachable :
    let network : Network := fun past _ =>
      if past.isEmpty then .answered ⟨200, [], "[\"north\"]".toUTF8⟩ true else .unreachable
    let files := (FileTree.empty ["home"]).put ["home", "state.json"] (.file ⟨#[55]⟩)
    let surroundings : Surroundings := ⟨⟨[], none⟩, files, network⟩
    let outcome := run ["--server-url", "http://[::1]/", "--download-dir", "out",
      "--state-file", "state.json", "generate-single", "--pattern", "north"] surroundings
    outcome.exitCode = 1 ∧ outcome.errors ≠ "" ∧
      outcome.exchanges.map (·.request.method) = [.get, .post] ∧
      outcome.files.status "state.json" = .ok (["home", "state.json"], .file ⟨#[55]⟩) := by
  intro network files surroundings outcome
  let line : CommandLine :=
    ⟨none, some "http://[::1]/", some "out", some "state.json", .generateSingle ["north"] none⟩
  have read : CommandLine.read ["--server-url", "http://[::1]/", "--download-dir", "out",
      "--state-file", "state.json", "generate-single", "--pattern", "north"] = .ok line := by
    decide +kernel
  have loaded : Program.settings line surroundings =
      .ok ⟨"http://[::1]/", "out", "state.json", none⟩ := by decide +kernel
  have failed : outcome.exitCode = 1 := by decide +kernel
  have asked : outcome.exchanges.map (·.request.method) = [.get, .post] := by decide +kernel
  have outside : ¬outcome.files.EntryOf "out" ["home", "state.json"] := by
    rintro ⟨directory, name, named, -, same⟩
    have missing : outcome.files.directoryAt? "out" = none := by decide +kernel
    cases missing.symm.trans named
  obtain ⟨-, told, -, -, left⟩ := endings_agree read surroundings
  obtain ⟨-, kept⟩ := left failed
  obtain ⟨-, found⟩ := kept _ loaded _ outside ⟨#[55]⟩
  exact ⟨failed, told.mp failed, asked, found rfl⟩

end Program

end PatternRefinement
