import Mathlib.Data.List.Forall2
import PatternRefinement.Proofs.Archive
import PatternRefinement.Proofs.Download
import PatternRefinement.Proofs.Workbench.Runs
import PatternRefinement.Workbench.Edits

/-!
# Generations that came to nothing

A generation that was refused, not answered or given up can be left out of a run: nothing that
comes after it would be different.

## Main Definitions

* `Command.Fruitless` — asking for an archive came to nothing
* `Workbench.Alike`, `Turn.Alike` — what is the same but for the last message of a workbench
* `unmarked` — what is left of a list when the marked entries are deleted

## Main Statements

* `Workbench.erase_fruitless` — deleting any fruitless commands from a run changes nothing else

## Design Notes

The last message that is shown is the one trace that a fruitless command leaves, and no command
looks at it.  So a run and the run without the fruitless commands go on side by side, at
workbenches that are alike and with the same files.
-/

namespace PatternRefinement

/-! ## What is the same -/

/-- Two workbenches that are the same but for the last message. -/
structure Workbench.Alike {S : Type} (bench other : Workbench S) : Prop where
  session_eq : bench.session = other.session
  projectName?_eq : bench.projectName? = other.projectName?
  busy_eq : bench.busy = other.busy

/-- Two turns that are the same but for the last message of the workbench they started from. -/
structure Turn.Alike {S : Type} (turn other : Turn S) : Prop where
  bench : turn.bench.Alike other.bench
  files_eq : turn.files = other.files
  result_eq : turn.result = other.result
  messages_eq : turn.messages = other.messages
  requests_eq : turn.requests = other.requests

/-- Asking for an archive came to nothing: the session was not ready, the service failed or did not
answer with a success, or nobody waited for its answer. -/
inductive Command.Fruitless {S Edit : Type} (turn : Turn S) : Command Edit → Prop
  | notReady {answer : GenerationRequest → Except Failure Response}
      (refused : turn.result = .error .notReady) : Fruitless turn (.generate answer)
  | failed {answer : GenerationRequest → Except Failure Response} {request : GenerationRequest}
      {failure : Failure} (sent : request ∈ turn.requests)
      (answered : answer request = .error failure) : Fruitless turn (.generate answer)
  | unsuccessful {answer : GenerationRequest → Except Failure Response}
      {request : GenerationRequest} {response : Response} (sent : request ∈ turn.requests)
      (answered : answer request = .ok response)
      (status : response.status < 200 ∨ 299 < response.status) : Fruitless turn (.generate answer)
  | abandoned : Fruitless turn .abandon

/-- The entries of a list that are not marked. -/
def unmarked {α : Type} (entries : List (α × Bool)) : List α :=
  (entries.filter fun entry => !entry.2).map (·.1)

theorem unmarked_cons_true {α : Type} (entry : α) (rest : List (α × Bool)) :
    unmarked ((entry, true) :: rest) = unmarked rest := rfl

theorem unmarked_cons_false {α : Type} (entry : α) (rest : List (α × Bool)) :
    unmarked ((entry, false) :: rest) = entry :: unmarked rest := rfl

namespace Workbench

variable {S Edit : Type} [EditableSession S Edit] {deliver : Delivery} {bench other : Workbench S}
  {files : FileTree}

theorem Alike.trans {third : Workbench S} (first : bench.Alike other) (second : other.Alike third) :
    bench.Alike third :=
  ⟨first.session_eq.trans second.session_eq, first.projectName?_eq.trans second.projectName?_eq,
    first.busy_eq.trans second.busy_eq⟩

/-! ## Commands at workbenches that are alike -/

theorem Alike.accept (alike : bench.Alike other) (files : FileTree) (answer : Answer)
    (message? : Option StatusMessage) :
    (bench.accept files answer message?).Alike (other.accept files answer message?) :=
  ⟨⟨alike.session_eq, alike.projectName?_eq, alike.busy_eq⟩, rfl, rfl, rfl, rfl⟩

theorem Alike.refuse (alike : bench.Alike other) (files : FileTree) (failure : Failure)
    (text : String) :
    (bench.refuse files failure text).Alike (other.refuse files failure text) :=
  ⟨⟨alike.session_eq, alike.projectName?_eq, alike.busy_eq⟩, rfl, rfl, rfl, rfl⟩

theorem Alike.withSession (alike : bench.Alike other) (session : S) :
    ({ bench with session } : Workbench S).Alike { other with session } :=
  ⟨rfl, alike.projectName?_eq, alike.busy_eq⟩

theorem Alike.finish (alike : bench.Alike other) (files : FileTree)
    (outcome : Except Failure Report) :
    (bench.finish files outcome).Alike (other.finish files outcome) := by
  cases outcome with
  | ok report =>
      rw [finish_ok, finish_ok, alike.session_eq]
      exact (alike.withSession _).accept _ _ _
  | error failure => exact alike.refuse files failure _

theorem Alike.released (alike : bench.Alike other) :
    bench.start.release.Alike other.start.release :=
  ⟨alike.session_eq, alike.projectName?_eq, rfl⟩

theorem Alike.request_eq (alike : bench.Alike other) : bench.request = other.request := by
  rw [request, request, alike.session_eq, alike.projectName?_eq]

theorem sent_alike {turn other : Turn S} (alike : turn.Alike other) (request : GenerationRequest) :
    (turn.afterSending request).Alike (other.afterSending request) :=
  ⟨alike.bench, alike.files_eq, alike.result_eq,
    congrArg (StatusMessage.info generatingText :: ·) alike.messages_eq,
    congrArg (request :: ·) alike.requests_eq⟩

/-- What comes of asking is the same, if it is the same at workbenches that are alike. -/
theorem Alike.ask (alike : bench.Alike other) (idle : bench.busy = false) (files : FileTree)
    {go : Workbench S → GenerationRequest → Turn S}
    (same : ∀ (bench other : Workbench S) request, bench.Alike other →
      (go bench request).Alike (go other request)) :
    (bench.ask files go).Alike (other.ask files go) := by
  have idleOther : other.busy = false := alike.busy_eq.symm.trans idle
  cases ready : Session.isReady bench.session with
  | true =>
      rw [ask_of_ready idle ready, ask_of_ready idleOther (alike.session_eq ▸ ready),
        alike.request_eq]
      exact sent_alike (same _ _ other.request alike.released) other.request
  | false =>
      rw [ask_of_notReady idle ready, ask_of_notReady idleOther (alike.session_eq ▸ ready)]
      exact alike.refuse files _ _

theorem Alike.edit (alike : bench.Alike other) (files : FileTree) (change : Edit) :
    (bench.edit files change).Alike (other.edit files change) := by
  rw [Workbench.edit, Workbench.edit, alike.session_eq]
  cases EditableSession.edit other.session files change with
  | ok edited => exact (alike.withSession edited.session).accept _ _ _
  | error failure => exact alike.refuse files failure _

theorem Alike.reload (alike : bench.Alike other) (files : FileTree)
    (listing : Except Failure (List PatternName)) :
    (bench.reload files listing).Alike (other.reload files listing) := by
  cases listing with
  | ok names =>
      rw [Workbench.reload, Workbench.reload, alike.session_eq]
      exact (alike.withSession _).accept _ _ _
  | error failure =>
      rw [Workbench.reload, Workbench.reload, alike.session_eq]
      exact (alike.withSession _).refuse _ _ _

/-- **No command looks at the last message.** -/
theorem Alike.perform (alike : bench.Alike other) (idle : bench.busy = false)
    (command : Command Edit) :
    (bench.perform deliver files command).Alike (other.perform deliver files command) := by
  cases command with
  | reload listing => exact alike.reload files listing
  | generate answer =>
      rw [Workbench.perform, Workbench.perform, generate, generate]
      refine alike.ask idle files fun bench other request same => ?_
      rw [same.session_eq]
      exact same.finish _ _
  | abandon => exact alike.ask idle files fun _ _ _ same => same.accept files .abandoned none
  | abandonSaving answer leave =>
      rw [Workbench.perform, Workbench.perform, abandonSaving, abandonSaving]
      refine alike.ask idle files fun bench other request same => ?_
      rw [same.session_eq]
      split
      · exact same.finish files _
      · exact same.accept _ .abandoned none
  | abandonRecording answer steps =>
      rw [Workbench.perform, Workbench.perform, abandonRecording, abandonRecording]
      refine alike.ask idle files fun bench other request same => ?_
      rw [same.session_eq]
      dsimp only
      split
      · exact (same.withSession _).accept _ .abandoned none
      · exact same.finish _ _
  | edit change => exact alike.edit files change

/-! ## Generations that fail -/

/-- An archive that is not obtained leaves the files as they were, unless saving it failed. -/
theorem obtain_eq_error {stepCount : Nat} {answer : Except Failure Response} {after : FileTree}
    {failure : Failure} (h : obtain deliver files stepCount answer = (after, .error failure)) :
    after = files ∨ ∃ content name cause, deliver files content name = (after, .error cause) ∧
      failure = .downloadFailed cause := by
  unfold obtain at h
  split at h
  · exact Or.inl (Prod.mk.inj h).1.symm
  · rename_i archive _
    split at h
    · rename_i saved cause delivered
      obtain ⟨rfl, same⟩ := Prod.mk.inj h
      exact Or.inr ⟨archive.content, archive.fileName, cause, delivered,
        (Except.error.inj same).symm⟩
    · cases (Prod.mk.inj h).2

theorem obtain_unsuccessful (deliver : Delivery) (files : FileTree) (stepCount : Nat)
    {response : Response} (status : response.status < 200 ∨ 299 < response.status) :
    ∃ failure, obtain deliver files stepCount (.ok response) = (files, .error failure) := by
  have refused : response.isSuccess = false := by
    refine Bool.eq_false_iff.mpr fun success => ?_
    have within := Response.isSuccess_iff.mp success
    omega
  refine ⟨.generationFailed (Archive.refusal response), ?_⟩
  rw [obtain, receive, Archive.ofResponse, refused]
  rfl

variable {answer : GenerationRequest → Except Failure Response}

/-- A generation that fails leaves the workbench as it was, and the files as they are when it
fails. -/
theorem generate_of_error (idle : bench.busy = false) (ready : Session.isReady bench.session = true)
    {after : FileTree} {failure : Failure}
    (failed : obtain deliver files (Session.stepCount bench.session) (answer bench.request) =
      (after, .error failure)) :
    (bench.generate deliver files answer).bench.Alike bench ∧
      (bench.generate deliver files answer).files = after ∧
      (bench.generate deliver files answer).result = .error failure := by
  rw [generate_of_ready idle ready, failed, finish_error]
  exact ⟨⟨rfl, rfl, idle.symm⟩, rfl, rfl⟩

/-- A generation that is recorded gives back its report. -/
theorem generate_of_ok (idle : bench.busy = false) (ready : Session.isReady bench.session = true)
    {after : FileTree} {report : Report}
    (saved : obtain deliver files (Session.stepCount bench.session) (answer bench.request) =
      (after, .ok report)) :
    (bench.generate deliver files answer).result = .ok (.generated report) := by
  rw [generate_of_ready idle ready, saved]
  rfl

/-- What is asked for at a session that is ready and fails for another reason than the saving of
the archive leaves the files as they were. -/
theorem generate_of_result_error (idle : bench.busy = false) {failure : Failure}
    (refused : (bench.generate deliver files answer).result = .error failure) :
    (bench.generate deliver files answer).bench.Alike bench ∧
      ((bench.generate deliver files answer).files = files ∨ ∃ content name cause,
        deliver files content name = ((bench.generate deliver files answer).files, .error cause) ∧
          failure = .downloadFailed cause) := by
  cases ready : Session.isReady bench.session with
  | false =>
      rw [generate_of_notReady idle ready]
      exact ⟨⟨rfl, rfl, rfl⟩, Or.inl rfl⟩
  | true =>
      cases obtained : obtain deliver files (Session.stepCount bench.session)
          (answer bench.request) with
      | mk after outcome =>
          cases outcome with
          | ok report =>
              rw [generate_of_ok idle ready obtained] at refused
              cases refused
          | error cause =>
              obtain ⟨alike, filesEq, result⟩ := generate_of_error idle ready obtained
              obtain rfl := Except.error.inj (result.symm.trans refused)
              refine ⟨alike, ?_⟩
              rw [filesEq]
              exact obtain_eq_error obtained

theorem ready_of_mem_requests (idle : bench.busy = false) {command : Command Edit}
    {request : GenerationRequest}
    (sent : request ∈ (bench.perform deliver files command).requests) :
    Session.isReady bench.session = true ∧ request = bench.request := by
  rw [requests_perform idle] at sent
  split at sent
  · rename_i asked
    exact ⟨(Bool.and_eq_true_iff.mp asked).2, List.mem_singleton.mp sent⟩
  · cases sent

/-- **A fruitless command leaves the workbench as it was but for the last message, and the
files.** -/
theorem alike_of_fruitless (idle : bench.busy = false) {command : Command Edit}
    (fruitless : command.Fruitless (bench.perform deliver files command)) :
    (bench.perform deliver files command).bench.Alike bench ∧
      (bench.perform deliver files command).files = files := by
  cases fruitless with
  | notReady refused =>
      obtain ⟨alike, same | ⟨_, _, cause, _, other⟩⟩ := generate_of_result_error idle refused
      · exact ⟨alike, same⟩
      · cases other
  | failed sent answered =>
      obtain ⟨ready, rfl⟩ := ready_of_mem_requests idle sent
      have failed : obtain deliver files (Session.stepCount bench.session) _ =
          (files, .error _) := congrArg (obtain deliver files _) answered
      obtain ⟨alike, same, -⟩ := generate_of_error idle ready failed
      exact ⟨alike, same⟩
  | unsuccessful sent answered status =>
      obtain ⟨ready, rfl⟩ := ready_of_mem_requests idle sent
      obtain ⟨failure, failed⟩ := obtain_unsuccessful deliver files
        (Session.stepCount bench.session) status
      rw [← answered] at failed
      obtain ⟨alike, same, -⟩ := generate_of_error idle ready failed
      exact ⟨alike, same⟩
  | abandoned =>
      rw [perform, abandon]
      cases ready : Session.isReady bench.session with
      | true =>
          rw [ask_of_ready idle ready]
          exact ⟨⟨rfl, rfl, idle.symm⟩, rfl⟩
      | false =>
          rw [ask_of_notReady idle ready]
          exact ⟨⟨rfl, rfl, rfl⟩, rfl⟩

/-- Saving into a directory that fails leaves no file behind, and neither does any other failure of
a generation. -/
theorem noNewFile_of_result_error {folder : String} (idle : bench.busy = false)
    {failure : Failure}
    (refused : (bench.generate (intoDirectory folder) files answer).result = .error failure) :
    files.NoNewFile (bench.generate (intoDirectory folder) files answer).files := by
  rcases (generate_of_result_error idle refused).2 with same | ⟨content, name, cause, saved, -⟩
  · rw [same]
    exact fun _ _ => id
  · exact Download.save_error saved

/-! ## Runs without them -/

/-- The turns of a run that are not deleted are those of the run of the commands that are left. -/
theorem forall₂_run_unmarked (idle : bench.busy = false) (alike : bench.Alike other)
    (marked : List (Command Edit × Bool))
    (fruitless : ∀ entry ∈ (bench.run deliver files (marked.map (·.1))).zip marked,
      entry.2.2 = true → entry.2.1.Fruitless entry.1) :
    List.Forall₂ Turn.Alike
      (unmarked ((bench.run deliver files (marked.map (·.1))).zip (marked.map (·.2))))
      (other.run deliver files (unmarked marked)) := by
  induction marked generalizing bench other files with
  | nil => exact .nil
  | cons entry rest ih =>
      obtain ⟨command, deleted⟩ := entry
      rw [List.map_cons, run, List.zip_cons_cons] at fruitless
      have here := fruitless _ List.mem_cons_self
      have behind := fun entry mem => fruitless entry (List.mem_cons_of_mem _ mem)
      have nextIdle : (bench.perform deliver files command).bench.busy = false :=
        (idle_perform idle command).1
      rw [List.map_cons, List.map_cons, run, List.zip_cons_cons]
      cases deleted with
      | true =>
          obtain ⟨back, same⟩ := alike_of_fruitless idle (here rfl)
          rw [unmarked_cons_true, unmarked_cons_true]
          have next := ih nextIdle (back.trans alike) behind
          rwa [same] at next ⊢
      | false =>
          have turns : (bench.perform deliver files command).Alike
              (other.perform deliver files command) := alike.perform idle command
          rw [unmarked_cons_false, unmarked_cons_false, run]
          refine .cons turns ?_
          rw [← turns.files_eq]
          exact ih nextIdle turns.bench behind

theorem busy_of_mem_run (idle : bench.busy = false) (commands : List (Command Edit)) :
    ∀ turn ∈ bench.run deliver files commands, turn.bench.busy = false := by
  induction commands generalizing bench files with
  | nil => exact List.forall_mem_nil _
  | cons command rest ih =>
      have next : (bench.perform deliver files command).bench.busy = false :=
        (idle_perform idle command).1
      intro turn mem
      rcases List.mem_cons.mp mem with rfl | behind
      · exact next
      · exact ih next turn behind

/-- **Generations that come to nothing can be erased from a run**, whatever the session is.  When
any commands are deleted that were fruitless in the run, each of the others has the same result,
messages and requests as before, and the same session and files behind it, with no request under
way.  A generation whose archive cannot be saved in its directory leaves the session as it was, and
no file that was not there before. -/
theorem erase_fruitless {S Edit : Type} [EditableSession S Edit] (session : S)
    (configured : Option String) (files : FileTree) :
    let bench := ofSession session configured
    (∀ (deliver : Delivery) (marked : List (Command Edit × Bool)),
      let turns := bench.run deliver files (marked.map (·.1))
      (∀ entry ∈ turns.zip marked, entry.2.2 = true → entry.2.1.Fruitless entry.1) →
        List.Forall₂ Turn.Alike (unmarked (turns.zip (marked.map (·.2))))
          (bench.run deliver files (unmarked marked)) ∧
        ∀ turn ∈ turns, turn.bench.busy = false) ∧
    ∀ (folder : String) (past : List (Command Edit))
      (answer : GenerationRequest → Except Failure Response) (future : List (Command Edit)),
      let before := bench.after (intoDirectory folder) files past
      ∃ turn, (bench.run (intoDirectory folder) files
          (past ++ .generate answer :: future))[past.length]? = some turn ∧
        ∀ cause, turn.result = .error (.downloadFailed cause) →
          turn.bench.session = before.1.session ∧ turn.bench.busy = before.1.busy ∧
            before.2.NoNewFile turn.files := by
  intro bench
  constructor
  · intro deliver marked turns fruitless
    exact ⟨forall₂_run_unmarked rfl ⟨rfl, rfl, rfl⟩ marked fruitless, busy_of_mem_run rfl _⟩
  · intro folder past answer future before
    refine ⟨_, getElem?_run past _ future, fun cause failed => ?_⟩
    have idle : before.1.busy = false := (idle_after rfl past).1
    have alike := (generate_of_result_error idle failed).1
    exact ⟨alike.session_eq, alike.busy_eq, noNewFile_of_result_error idle failed⟩

/-- Asking fails in every way here, and nothing can be saved because a file has the name of the
directory. -/
theorem erase_fruitless_blocked :
    let files := (FileTree.empty ["home"]).put ["home", "out"] (.file ⟨#[]⟩)
    let bench := ofSession (Plan.ofCatalog ⟨["north"]⟩) (some " Atlas ")
    let refusing : GenerationRequest → Except Failure Response :=
      fun _ => .error (.generationFailed "no route")
    let marked : List (Command PlanEdit × Bool) :=
      [(.edit (.configure 1), false), (.generate refusing, true),
        (.edit (.toggle 1 "north"), false), (.generate refusing, true),
        (.generate fun _ => .ok ⟨503, [], ⟨#[]⟩⟩, true), (.abandon, true)]
    let turns := bench.run (intoDirectory "out") files (marked.map (·.1))
    (∀ entry ∈ turns.zip marked, entry.2.2 = true → entry.2.1.Fruitless entry.1) ∧
      List.Forall₂ Turn.Alike (unmarked (turns.zip (marked.map (·.2))))
        (bench.run (intoDirectory "out") files (unmarked marked)) ∧
      ∃ turn, (bench.run (intoDirectory "out") files [.edit (.configure 1),
          .edit (.toggle 1 "north"), .generate fun _ => .ok ⟨200, [], ⟨#[]⟩⟩])[2]? = some turn ∧
        turn.result = .error (.downloadFailed (.directory "out" .exists)) ∧
        turn.bench.session = ⟨⟨["north"]⟩, [⟨1, ⟨["north"]⟩⟩]⟩ ∧ turn.bench.busy = false ∧
        files.NoNewFile turn.files := by
  intro files bench refusing marked turns
  have fruitless : ∀ entry ∈ turns.zip marked,
      entry.2.2 = true → entry.2.1.Fruitless entry.1 := by
    intro entry mem deleted
    rcases List.mem_cons.mp mem with rfl | mem
    · cases deleted
    rcases List.mem_cons.mp mem with rfl | mem
    · exact .notReady rfl
    rcases List.mem_cons.mp mem with rfl | mem
    · cases deleted
    rcases List.mem_cons.mp mem with rfl | mem
    · exact .failed List.mem_cons_self rfl
    rcases List.mem_cons.mp mem with rfl | mem
    · exact .unsuccessful List.mem_cons_self rfl (Or.inr (by decide))
    rcases List.mem_cons.mp mem with rfl | mem
    · exact .abandoned
    exact absurd mem List.not_mem_nil
  obtain ⟨erased, saving⟩ := erase_fruitless (S := Plan) (Plan.ofCatalog ⟨["north"]⟩)
    (some " Atlas ") files
  refine ⟨fruitless, (erased (intoDirectory "out") marked fruitless).1, ?_⟩
  obtain ⟨turn, here, kept⟩ := saving "out" [.edit (.configure 1), .edit (.toggle 1 "north")]
    (fun _ => .ok ⟨200, [], ⟨#[]⟩⟩) []
  have result : turn.result = .error (.downloadFailed (.directory "out" .exists)) := by
    have blocked : obtain (intoDirectory "out") files 1 (.ok ⟨200, [], ⟨#[]⟩⟩) =
        (files, .error (.downloadFailed (.directory "out" .exists))) := rfl
    rw [Option.some.inj (here.symm.trans (getElem?_run _ _ _))]
    exact (generate_of_error rfl rfl blocked).2.2
  exact ⟨turn, here, result, kept _ result⟩

end Workbench

end PatternRefinement
