import PatternRefinement.Proofs.CommandLine
import PatternRefinement.Proofs.Program.Basic
import PatternRefinement.Proofs.Settings
import PatternRefinement.Proofs.Workbench.Choices
import PatternRefinement.Proofs.Workbench.PlanChoices
import PatternRefinement.Proofs.Workbench.Requests
import PatternRefinement.Proofs.Workbench.Visits

/-!
# The settings of a run

## Main Definitions

* `Settings.Layered` — each setting comes from the highest layer that sets it
* `NamesConfigured` — a body names the project that a configured name stands for, and no other

## Main Statements

* `Job.posts_perform` — a request to generate is for the project of the settings
* `Program.settings_by_layer` — the settings of a run, and when there are none

## Design Notes

An empty text is a setting like any other, and so is a blank one.  Only when a request is made, a
blank name of a project turns out to name none; the layers below it have been left behind by then.
-/

namespace PatternRefinement

/-! ## The project of a request -/

/-- A body names the project that a configured name stands for: the name without the blanks at its
ends.  Where nothing is configured, or nothing but blanks, no member tells of a project. -/
def NamesConfigured (body : String) (configured : Option String) : Prop :=
  ∃ members, Json.read? body = some (.object members) ∧
    ∀ value, ("projectName", value) ∈ members ↔ ∃ raw, configured = some raw ∧
      (∃ c ∈ raw.toList, Text.isBlank c = false) ∧ value = .string (Text.trimmed raw)

theorem Payload.not_mem_members (payload : Payload) (value : Json.Value) :
    ("projectName", value) ∉ payload.members := by
  cases payload <;> simp [members]

/-- The members of a body tell of the project that the request is for. -/
theorem GenerationRequest.mem_members_iff (request : GenerationRequest) :
    ∃ members, Json.read? request.body = some (.object members) ∧
      ∀ value, ("projectName", value) ∈ members ↔
        ∃ name, request.projectName? = some name ∧ value = .string name := by
  rw [read?_body]
  obtain ⟨projectName?, payload⟩ := request
  cases projectName? with
  | none => exact ⟨_, rfl, fun value => by simp [payload.not_mem_members]⟩
  | some name => exact ⟨_, rfl, fun value => by simp [payload.not_mem_members]⟩

theorem namesConfigured_body (configured : Option String) (payload : Payload) :
    NamesConfigured (GenerationRequest.mk (namedProject? configured) payload).body configured := by
  obtain ⟨members, read, named⟩ :=
    (GenerationRequest.mk (namedProject? configured) payload).mem_members_iff
  refine ⟨members, read, fun value => (named value).trans ?_⟩
  simp only [namedProject?_eq_some_iff]
  constructor
  · rintro ⟨name, ⟨raw, configured_eq, notBlank, rfl⟩, rfl⟩
    exact ⟨raw, configured_eq, notBlank, rfl⟩
  · rintro ⟨raw, configured_eq, notBlank, rfl⟩
    exact ⟨_, ⟨raw, configured_eq, notBlank, rfl⟩, rfl⟩

/-! ## Jobs -/

namespace Job

variable (settings : Settings) (surroundings : Surroundings)

/-- **A request to generate is for the project of the settings**, whatever the job. -/
theorem posts_perform (job : Job) :
    ∀ sent ∈ (job.perform settings surroundings).exchanges, sent.request.method = .post →
      NamesConfigured sent.request.body settings.projectName? := by
  have each {performance : Service → Performance}
      (posts : ∀ service, ∀ sent ∈ (performance service).exchanges,
        sent.request.method = .post → ∃ payload, sent.request.body =
          (GenerationRequest.mk (namedProject? settings.projectName?) payload).body) :
      ∀ sent ∈ (withService settings surroundings performance).exchanges,
        sent.request.method = .post →
          NamesConfigured sent.request.body settings.projectName? := by
    intro sent mem post
    cases usable : Service.ofUrl settings.serverUrl with
    | error failure =>
        rw [withService_error usable] at mem
        exact (List.not_mem_nil mem).elim
    | ok service =>
        rw [withService_eq usable] at mem
        obtain ⟨payload, body⟩ := posts service sent mem post
        exact body ▸ namesConfigured_body _ payload
  unfold perform
  cases job with
  | patterns =>
      refine each fun service sent mem post => ?_
      unfold listPatterns at mem
      rw [Performance.exchanges_ofTurn] at mem
      cases (service.list_asks surroundings.network sent mem).symm.trans post
  | generate steps stepCount? projectName? =>
      refine each fun service sent mem post => ?_
      unfold generatePlan at mem
      rw [Performance.exchanges_ofTurn] at mem
      exact Workbench.posts_produce _ service surroundings.network rfl
        (Plan.leavesFiles_always surroundings.files (planEdits steps stepCount?)) sent mem post
  | generateSingle patterns projectName? =>
      refine each fun service sent mem post => ?_
      unfold generateNext at mem
      rw [Performance.exchanges_ofTurn] at mem
      exact Workbench.posts_produce _ service surroundings.network rfl
        (NumberedSelection.leavesFiles_selectionChoices surroundings.files patterns) sent mem post
  | counter => exact List.forall_mem_nil _
  | resetCounter => exact List.forall_mem_nil _

end Job

/-! ## Settings -/

/-- Each setting has the value of the highest layer that sets it: the command line, the environment,
the settings file, and the default.  The service can be named by two variables, one of which goes
before the other; a project has no default. -/
structure Settings.Layered (settings : Settings) (line : CommandLine)
    (surroundings : Surroundings) : Prop where
  serverUrl : Prevails
    [line.serverUrl?, surroundings.environment.get? "APP__SERVER_URL",
      surroundings.environment.get? "COMPOSER_SERVER_URL",
      Settings.inFile? surroundings.files line.config? "server_url",
      some (Settings.default surroundings.files surroundings.environment).serverUrl]
    (some settings.serverUrl)
  downloadDirectory : Prevails
    [line.downloadDirectory?, surroundings.environment.get? "COMPOSER_DOWNLOAD_DIR",
      Settings.inFile? surroundings.files line.config? "download_dir",
      some (Settings.default surroundings.files surroundings.environment).downloadDirectory]
    (some settings.downloadDirectory)
  statePath : Prevails
    [line.statePath?, surroundings.environment.get? "COMPOSER_STATE_PATH",
      Settings.inFile? surroundings.files line.config? "state_path",
      some (Settings.default surroundings.files surroundings.environment).statePath]
    (some settings.statePath)
  projectName : Prevails
    [line.job.projectName?, surroundings.environment.get? "COMPOSER_PROJECT_NAME",
      Settings.inFile? surroundings.files line.config? "project_name"]
    settings.projectName?

namespace Program

variable {line : CommandLine} {surroundings : Surroundings}

theorem settings_of_refused
    (refused : Settings.Refused surroundings.files line.config?) :
    ∃ failure, Program.settings line surroundings = .error failure := by
  obtain ⟨failure, loaded⟩ := Settings.load_of_refused refused
  refine ⟨failure, ?_⟩
  rw [Program.settings, loaded]
  rfl

/-- Where there are settings, they come from the layers. -/
theorem layered_of_not_refused
    (usable : ¬Settings.Refused surroundings.files line.config?) :
    ∃ settings, Program.settings line surroundings = .ok settings ∧
      settings.Layered line surroundings := by
  have loaded : Program.settings line surroundings = .ok
      ((((Settings.default surroundings.files surroundings.environment).override
        (Settings.fileLayer surroundings.files line.config?)).override
          (.ofEnvironment surroundings.environment)).override line.overrides) := by
    rw [Program.settings, Settings.load_of_not_refused usable]
    rfl
  refine ⟨_, loaded, ?_, ?_, ?_, ?_⟩
  · exact (((Prevails.set _ []).getD _).getD_orElse _ _).getD _
  · exact (((Prevails.set _ []).getD _).getD _).getD _
  · exact (((Prevails.set _ []).getD _).getD _).getD _
  · exact ((Prevails.unset.orElse _).orElse _).orElse _

/-- **Each setting of a run comes from the highest layer that sets it**, and the layers of the other
settings do not matter for it.

Options in any combination can be read in front of a command and behind it, with their values
attached or in words of their own, as long as none of them is given twice or names a path that is
empty.  Each goes to the setting that it is for, and this is so for every command: what is behind a
command that generates an archive can name a project.  Whatever words can be read, there are no
settings exactly if a settings file was asked for that cannot be read as text, or the text that was
read is no table whose known settings are texts.  Otherwise each of the four settings has the value
of the highest layer that sets it, and the run carries out its job with them.  A text that is empty
or blank is a value like any other: a request to generate is for the project that the highest layer
names, and for none if what it sets is blank.

A settings file that holds another table does not change anything, if both tables have the same
under the four names that are known. -/
theorem settings_by_layer (surroundings : Surroundings) :
    (∀ flags flagWords command options words job,
      Spells flags flagWords → CommandLine.mainLevel.Admits flags →
      CommandLine.Orders command options job → Spells options words →
      ∃ line, CommandLine.read (flagWords ++ command :: words) = .ok line ∧
        line.job = job ∧ line.config? = flags.lookup "config" ∧
        line.overrides = ⟨flags.lookup "server-url", flags.lookup "download-dir",
          flags.lookup "state-file", options.lookup "project-name"⟩) ∧
    ∀ words line, CommandLine.read words = .ok line →
      ((∃ failure, Program.settings line surroundings = .error failure) ↔
        Settings.Refused surroundings.files line.config?) ∧
      (∀ failure, Program.settings line surroundings = .error failure →
        run words surroundings = .ofSettingsFailure surroundings.files failure) ∧
      (∀ settings, Program.settings line surroundings = .ok settings →
        settings.Layered line surroundings ∧
        run words surroundings = .ofPerformance (line.job.perform settings surroundings) ∧
        ∀ sent ∈ (run words surroundings).exchanges, sent.request.method = .post →
          NamesConfigured sent.request.body settings.projectName?) ∧
      ∀ others, Settings.Agree surroundings.files others line.config? →
        Settings.default others surroundings.environment =
          Settings.default surroundings.files surroundings.environment →
        Program.settings line { surroundings with files := others } =
          Program.settings line surroundings := by
  refine ⟨fun _ _ _ _ _ _ spells admits orders behind =>
    CommandLine.exists_read_of_orders spells admits orders behind, fun words line read => ?_⟩
  have refused_iff : (∃ failure, Program.settings line surroundings = .error failure) ↔
      Settings.Refused surroundings.files line.config? := by
    refine ⟨fun ⟨failure, failed⟩ => ?_, settings_of_refused⟩
    by_contra usable
    obtain ⟨settings, loaded, -⟩ := layered_of_not_refused usable
    cases loaded.symm.trans failed
  refine ⟨refused_iff, fun failure failed => ?_, fun settings loaded => ?_,
    fun others agree same => ?_⟩
  · rw [run, read]
    dsimp only
    rw [failed]
  · have usable : ¬Settings.Refused surroundings.files line.config? := fun refused => by
      obtain ⟨failure, failed⟩ := settings_of_refused refused
      cases loaded.symm.trans failed
    obtain ⟨other, same, layered⟩ := layered_of_not_refused usable
    obtain rfl := Except.ok.inj (same.symm.trans loaded)
    have performed := run_eq read loaded
    refine ⟨layered, performed, ?_⟩
    rw [performed]
    exact Job.posts_perform other surroundings line.job
  · rw [Program.settings, Program.settings, Settings.load_congr agree same]

/-- The environment sets a blank name, so the name in the settings file does not count and a request
is for no project.  The values of the options are spelled in both ways. -/
theorem settings_by_layer_blank :
    let network : Network := fun _ _ => .answered ⟨200, [], "[\"north\"]".toUTF8⟩ true
    let files := (FileTree.empty ["home"]).put ["home", "composer.toml"]
      (.file "project_name = \"Atlas\"".toUTF8)
    let surroundings : Surroundings := ⟨⟨[("COMPOSER_PROJECT_NAME", " ")], none⟩, files, network⟩
    let words := ["--server-url", "http://[::1]/", "--download-dir=out", "--state-file",
      "state.json", "generate-single", "--pattern", "north"]
    ∃ line settings, CommandLine.read words = .ok line ∧
      Program.settings line surroundings = .ok settings ∧
      settings.Layered line surroundings ∧ settings.projectName? = some " " ∧
      ∃ sent ∈ (run words surroundings).exchanges, sent.request.method = .post ∧
        NamesConfigured sent.request.body (some " ") := by
  intro network files surroundings words
  obtain ⟨reads, means⟩ := settings_by_layer surroundings
  have flags : Spells [("server-url", "http://[::1]/"), ("download-dir", "out"),
      ("state-file", "state.json")] ["--server-url", "http://[::1]/",
        attachedOption ("download-dir", "out"), "--state-file", "state.json"] :=
    .apart "server-url" (Or.inl (by decide)) (.attached "download-dir" "out"
      (.apart "state-file" (Or.inl (by decide)) .nil))
  have admits : CommandLine.mainLevel.Admits [("server-url", "http://[::1]/"),
      ("download-dir", "out"), ("state-file", "state.json")] := by
    refine ⟨?_, by simp⟩
    simp [CommandLine.mainLevel, Level.option?, CommandLine.pathOption, CommandLine.textOption]
  have orders : CommandLine.Orders "generate-single" [("pattern", "north")]
      (.generateSingle ["north"] none) :=
    .generateSingle ⟨by simp [CommandLine.generateSingleLevel, Level.option?,
      CommandLine.listOption], by simp⟩ (by decide)
  obtain ⟨⟨config?, serverUrl?, downloadDirectory?, statePath?, job⟩, read, rfl, config, given⟩ :=
    reads _ _ _ _ _ _ flags admits orders (.apart "pattern" (Or.inl (by decide)) .nil)
  obtain rfl : config? = none := config
  obtain ⟨rfl, rfl, rfl, -⟩ := Overrides.mk.inj given
  have loaded : Program.settings ⟨none, some "http://[::1]/", some "out", some "state.json",
      .generateSingle ["north"] none⟩ surroundings =
        .ok ⟨"http://[::1]/", "out", "state.json", some " "⟩ := by decide +kernel
  have methods : (run words surroundings).exchanges.map (·.request.method) = [.get, .post] := by
    decide +kernel
  obtain ⟨-, -, layers, -⟩ := means words _ read
  obtain ⟨layered, -, names⟩ := layers _ loaded
  have sends : WebMethod.post ∈ (run words surroundings).exchanges.map (·.request.method) := by
    rw [methods]
    decide
  obtain ⟨sent, mem, post⟩ := List.mem_map.mp sends
  exact ⟨_, _, read, loaded, layered, rfl, sent, mem, post, names sent mem post⟩

end Program

end PatternRefinement
