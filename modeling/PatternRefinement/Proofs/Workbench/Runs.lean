import PatternRefinement.Workbench.Basic

/-!
# Runs of a workbench

## Main Definitions

* `Workbench.after` — the workbench and the files that commands lead to
* `Command.asks` — whether a command asks the service for an archive
* `Command.installs?` — the catalog that a command installs
* `Workbench.Ending` — how a request that was sent can end

## Main Statements

* `Workbench.getElem?_run` — a turn of a run is its command carried out where the ones before it led
* `Workbench.perform_of_ready`, `Workbench.perform_of_notReady` — what asking comes to
* `Workbench.requests_perform` — which requests a command sends
* `Workbench.session_perform` — what holds of the session of a turn

## Design Notes

Outside a turn no request is under way.  So everything here is about a workbench that is not busy,
and every turn leaves it so.  There are several ways of asking for an archive and giving up, and
what all of them have in common is said once, about their endings.
-/

namespace PatternRefinement

/-- Whether a command asks the service for an archive. -/
def Command.asks {Edit : Type} : Command Edit → Bool
  | .generate _ => true
  | .abandon => true
  | .abandonSaving _ _ => true
  | .abandonRecording _ _ => true
  | .reload _ => false
  | .edit _ => false

/-- The catalog that a command installs: without a listing it is empty. -/
def Command.installs? {Edit : Type} : Command Edit → Option Catalog
  | .reload (.ok names) => some (.ofNames names)
  | .reload (.error _) => some .empty
  | .generate _ => none
  | .abandon => none
  | .abandonSaving _ _ => none
  | .abandonRecording _ _ => none
  | .edit _ => none

namespace Workbench

section Session

variable {S : Type} [Session S] {deliver : Delivery} {bench : Workbench S} {files : FileTree}
  {answer : GenerationRequest → Except Failure Response}

/-! ## Asking for an archive -/

theorem ask_of_busy (busy : bench.busy = true) (go : Workbench S → GenerationRequest → Turn S) :
    bench.ask files go =
      { bench, files, result := .error .busy, messages := [], requests := [] } := by
  rw [ask, busy]
  rfl

theorem ask_of_notReady (idle : bench.busy = false)
    (notReady : Session.isReady bench.session = false)
    (go : Workbench S → GenerationRequest → Turn S) :
    bench.ask files go = bench.refuse files .notReady Failure.notReady.message := by
  rw [ask, idle, notReady]
  rfl

theorem ask_of_ready (idle : bench.busy = false) (ready : Session.isReady bench.session = true)
    (go : Workbench S → GenerationRequest → Turn S) :
    bench.ask files go = (go bench.start.release bench.request).afterSending bench.request := by
  rw [ask, idle, ready]
  rfl

theorem generate_of_notReady (idle : bench.busy = false)
    (notReady : Session.isReady bench.session = false) :
    bench.generate deliver files answer =
      bench.refuse files .notReady Failure.notReady.message :=
  ask_of_notReady idle notReady _

/-- The service receives the request and answers, and the archive in its answer is saved. -/
theorem generate_of_ready (idle : bench.busy = false)
    (ready : Session.isReady bench.session = true) :
    bench.generate deliver files answer =
      (bench.start.release.finish
        (obtain deliver files (Session.stepCount bench.session) (answer bench.request)).1
        (obtain deliver files (Session.stepCount bench.session) (answer bench.request)).2
      ).afterSending bench.request :=
  ask_of_ready idle ready _

/-- How a request that was sent can end, at the workbench without it. -/
inductive Ending (bench : Workbench S) : Turn S → Prop
  /-- An archive was recorded, or a failure is told. -/
  | finished (files : FileTree) (outcome : Except Failure Report) :
      Ending bench (bench.finish files outcome)
  /-- Nobody waits any more for the service or for the archive to be saved. -/
  | abandoned (left : FileTree) : Ending bench (bench.accept left .abandoned none)
  /-- Nobody waits any more, and the session has changed. -/
  | recording (saved left : FileTree) :
      Ending bench (accept { bench with session := (Session.recordSuccess bench.session saved).1 }
        left .abandoned none)

theorem finish_ok (bench : Workbench S) (files : FileTree) (report : Report) :
    bench.finish files (.ok report) =
      accept { bench with session := (Session.recordSuccess bench.session files).1 }
        (Session.recordSuccess bench.session files).2 (.generated report)
        (some (.info report.archive.summary)) := rfl

theorem finish_error (bench : Workbench S) (files : FileTree) (failure : Failure) :
    bench.finish files (.error failure) =
      bench.refuse files failure ("Generation failed: " ++ failure.message) := rfl

theorem finish_requests (bench : Workbench S) (files : FileTree)
    (outcome : Except Failure Report) : (bench.finish files outcome).requests = [] := by
  cases outcome <;> rfl

theorem finish_busy (bench : Workbench S) (files : FileTree)
    (outcome : Except Failure Report) : (bench.finish files outcome).bench.busy = bench.busy := by
  cases outcome <;> rfl

theorem finish_projectName? (bench : Workbench S) (files : FileTree)
    (outcome : Except Failure Report) :
    (bench.finish files outcome).bench.projectName? = bench.projectName? := by
  cases outcome <;> rfl

end Session

section Run

variable {S Edit : Type} [EditableSession S Edit] {deliver : Delivery} {bench : Workbench S}
  {files : FileTree}

/-! ## One command -/

/-- However an archive is asked for, the request has one of the endings. -/
theorem exists_perform_eq_ask (deliver : Delivery) (bench : Workbench S) (files : FileTree)
    {command : Command Edit} (asks : command.asks = true) :
    ∃ go : Workbench S → GenerationRequest → Turn S,
      (∀ (bench : Workbench S) request, bench.Ending (go bench request)) ∧
        bench.perform deliver files command = bench.ask files go := by
  cases command with
  | reload listing => cases asks
  | generate answer =>
      rw [perform, generate]
      refine ⟨_, fun bench request => ?_, rfl⟩
      exact .finished _ _
  | abandon =>
      rw [perform, abandon]
      refine ⟨_, fun bench request => ?_, rfl⟩
      exact .abandoned files
  | abandonSaving answer leave =>
      rw [perform, abandonSaving]
      refine ⟨_, fun bench request => ?_, rfl⟩
      split
      · exact .finished files _
      · exact .abandoned _
  | abandonRecording answer steps =>
      rw [perform, abandonRecording]
      refine ⟨_, fun bench request => ?_, rfl⟩
      dsimp only
      split
      · exact .recording _ _
      · exact .finished _ _
  | edit change => cases asks

/-- A session that is not ready is not asked from. -/
theorem perform_of_notReady (idle : bench.busy = false)
    (notReady : Session.isReady bench.session = false) {command : Command Edit}
    (asks : command.asks = true) :
    bench.perform deliver files command =
      bench.refuse files .notReady Failure.notReady.message := by
  obtain ⟨go, -, same⟩ := exists_perform_eq_ask deliver bench files asks
  rw [same, ask_of_notReady idle notReady]

/-- A session that is ready is asked from, and its request is sent. -/
theorem perform_of_ready (deliver : Delivery) (files : FileTree) (idle : bench.busy = false)
    (ready : Session.isReady bench.session = true) {command : Command Edit}
    (asks : command.asks = true) :
    ∃ ending, bench.start.release.Ending ending ∧
      bench.perform deliver files command = ending.afterSending bench.request := by
  obtain ⟨go, ends, same⟩ := exists_perform_eq_ask deliver bench files asks
  exact ⟨_, ends _ bench.request, same.trans (ask_of_ready idle ready go)⟩

/-- Nothing else is sent at the end of a request. -/
theorem Ending.requests_eq {turn : Turn S} (ending : bench.Ending turn) : turn.requests = [] := by
  cases ending with
  | finished files outcome => exact finish_requests _ _ _
  | abandoned left => rfl
  | recording saved left => rfl

/-- No request is under way at the end of one, and the project is the same. -/
theorem Ending.bench_eq {turn : Turn S} (ending : bench.Ending turn) :
    turn.bench.busy = bench.busy ∧ turn.bench.projectName? = bench.projectName? := by
  cases ending with
  | finished files outcome => exact ⟨finish_busy _ _ _, finish_projectName? _ _ _⟩
  | abandoned left => exact ⟨rfl, rfl⟩
  | recording saved left => exact ⟨rfl, rfl⟩

/-- The session at the end of a request has recorded an archive, or it is as it was. -/
theorem Ending.session_eq {turn : Turn S} (ending : bench.Ending turn) :
    turn.bench.session = bench.session ∨
      ∃ saved, turn.bench.session = (Session.recordSuccess bench.session saved).1 := by
  cases ending with
  | finished files outcome =>
      cases outcome with
      | ok report => exact Or.inr ⟨files, rfl⟩
      | error failure => exact Or.inl rfl
  | abandoned left => exact Or.inl rfl
  | recording saved left => exact Or.inr ⟨saved, rfl⟩

/-- A command sends the request of the session if it asks for an archive and the session is ready,
and nothing otherwise. -/
theorem requests_perform (idle : bench.busy = false) (command : Command Edit) :
    (bench.perform deliver files command).requests =
      if command.asks && Session.isReady bench.session then [bench.request] else [] := by
  cases asks : command.asks with
  | true =>
      cases ready : Session.isReady bench.session with
      | true =>
          obtain ⟨ending, ends, same⟩ := perform_of_ready deliver files idle ready asks
          rw [same, Turn.afterSending, ends.requests_eq]
          rfl
      | false =>
          rw [perform_of_notReady idle ready asks]
          rfl
  | false =>
      cases command with
      | reload listing => cases listing <;> rfl
      | edit change =>
          rw [perform, edit]
          split <;> rfl
      | _ => cases asks

/-- No request is under way after a command, and the project is the same. -/
theorem idle_perform (idle : bench.busy = false) (command : Command Edit) :
    (bench.perform deliver files command).bench.busy = false ∧
      (bench.perform deliver files command).bench.projectName? = bench.projectName? := by
  cases asks : command.asks with
  | true =>
      cases ready : Session.isReady bench.session with
      | true =>
          obtain ⟨ending, ends, same⟩ := perform_of_ready deliver files idle ready asks
          rw [same]
          exact ends.bench_eq
      | false =>
          rw [perform_of_notReady idle ready asks]
          exact ⟨idle, rfl⟩
  | false =>
      cases command with
      | reload listing => cases listing <;> exact ⟨idle, rfl⟩
      | edit change =>
          rw [perform, edit]
          split <;> exact ⟨idle, rfl⟩
      | _ => cases asks

/-- A catalog that is installed replaces the one of the session. -/
theorem session_perform_of_installs {command : Command Edit} {catalog : Catalog}
    (installs : command.installs? = some catalog) :
    (bench.perform deliver files command).bench.session =
      (Session.replaceCatalog catalog bench.session).1 := by
  cases command with
  | reload listing => cases listing <;> cases installs <;> rfl
  | _ => cases installs

/-- A command that installs no catalog records a success, changes the session or leaves it. -/
theorem session_perform_of_installs_none {P : S → Prop} (idle : bench.busy = false)
    (holds : P bench.session)
    (recorded : ∀ files session, P session → P (Session.recordSuccess session files).1)
    (edited : ∀ files change session next, P session →
      EditableSession.edit session files change = .ok next → P next.session)
    {command : Command Edit} (installs : command.installs? = none) :
    P (bench.perform deliver files command).bench.session := by
  cases asks : command.asks with
  | true =>
      cases ready : Session.isReady bench.session with
      | true =>
          obtain ⟨ending, ends, same⟩ := perform_of_ready deliver files idle ready asks
          rw [same]
          rcases ends.session_eq with kept | ⟨saved, success⟩
          · exact kept ▸ holds
          · exact success ▸ recorded saved bench.session holds
      | false =>
          rw [perform_of_notReady idle ready asks]
          exact holds
  | false =>
      cases command with
      | reload listing => cases listing <;> cases installs
      | edit change =>
          rw [perform, edit]
          split
          · rename_i next changed
            exact edited files change bench.session next holds changed
          · exact holds
      | _ => cases asks

/-- **What every change of a session keeps, every command keeps.** -/
theorem session_perform {P : S → Prop} (idle : bench.busy = false) (holds : P bench.session)
    (replaced : ∀ catalog session, P session → P (Session.replaceCatalog catalog session).1)
    (recorded : ∀ files session, P session → P (Session.recordSuccess session files).1)
    (edited : ∀ files change session next, P session →
      EditableSession.edit session files change = .ok next → P next.session)
    (command : Command Edit) : P (bench.perform deliver files command).bench.session := by
  cases installs : command.installs? with
  | none => exact session_perform_of_installs_none idle holds recorded edited installs
  | some catalog =>
      rw [session_perform_of_installs installs]
      exact replaced catalog bench.session holds

/-! ## Many commands -/

/-- The workbench and the files after commands, one after the other. -/
def after (deliver : Delivery) (bench : Workbench S) (files : FileTree) :
    List (Command Edit) → Workbench S × FileTree
  | [] => (bench, files)
  | command :: rest =>
    let turn := bench.perform deliver files command
    after deliver turn.bench turn.files rest

theorem run_append (past future : List (Command Edit)) :
    bench.run deliver files (past ++ future) = bench.run deliver files past ++
      (bench.after deliver files past).1.run deliver (bench.after deliver files past).2 future := by
  induction past generalizing bench files with
  | nil => rfl
  | cons command rest ih =>
      rw [List.cons_append, run, run, after, ih]
      rfl

theorem length_run (deliver : Delivery) (bench : Workbench S) (files : FileTree)
    (commands : List (Command Edit)) :
    (bench.run deliver files commands).length = commands.length := by
  induction commands generalizing bench files with
  | nil => rfl
  | cons command rest ih => rw [run, List.length_cons, List.length_cons, ih]

/-- A turn of a run is its command, carried out where the commands before it led. -/
theorem getElem?_run (past : List (Command Edit)) (command : Command Edit)
    (future : List (Command Edit)) :
    (bench.run deliver files (past ++ command :: future))[past.length]? =
      some ((bench.after deliver files past).1.perform deliver
        (bench.after deliver files past).2 command) := by
  have here := Nat.le_of_eq (length_run deliver bench files past)
  rw [run_append, List.getElem?_append_right here, length_run, Nat.sub_self, run]
  rfl

/-- What every command keeps of a workbench that is not busy, commands keep. -/
theorem after_invariant {P : Workbench S → FileTree → Prop} (start : P bench files)
    (step : ∀ bench files (command : Command Edit), P bench files →
      P (bench.perform deliver files command).bench (bench.perform deliver files command).files)
    (commands : List (Command Edit)) :
    P (bench.after deliver files commands).1 (bench.after deliver files commands).2 := by
  induction commands generalizing bench files with
  | nil => exact start
  | cons command rest ih => exact ih (step bench files command start)

/-- No request is under way after commands, and the project is the same. -/
theorem idle_after (idle : bench.busy = false) (commands : List (Command Edit)) :
    (bench.after deliver files commands).1.busy = false ∧
      (bench.after deliver files commands).1.projectName? = bench.projectName? := by
  refine after_invariant (P := fun now _ => now.busy = false ∧
    now.projectName? = bench.projectName?) ⟨idle, rfl⟩ (fun now files command h => ?_) commands
  obtain ⟨stillIdle, same⟩ := idle_perform h.1 command
  exact ⟨stillIdle, same.trans h.2⟩

end Run

end Workbench

end PatternRefinement
