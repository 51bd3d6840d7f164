import PatternRefinement.Proofs.Workbench.Runs
import PatternRefinement.Workbench.Edits

/-!
# Failures are told

A command that fails says so in its last message, and a command that is carried out says nothing
that sounds like a failure.

## Main Definitions

* `Command.preamble` — what stands before the cause in the message about a failure
* `Turn.Candid` — a turn tells of its failure if it failed, and of none otherwise

## Main Statements

* `Workbench.candid_perform` — one command, at a session whose changes are confirmed without error
* `Workbench.failures_are_told` — every command of every run, for both kinds of sessions

## Design Notes

A change of a session brings its own message, so sessions could break this.  That neither kind does
is said about their changes first; the commands are then looked at for all sessions alike.
-/

namespace PatternRefinement

/-- What stands before the cause in the message about a failed command.  A generation that was not
asked for, because the session is not ready, is not announced as one that failed. -/
def Command.preamble {Edit : Type} (ready : Bool) : Command Edit → String
  | .reload _ => "Failed to load patterns: "
  | .generate _ | .abandon | .abandonSaving _ _ | .abandonRecording _ _ =>
    if ready then "Generation failed: " else ""
  | .edit _ => ""

/-- A turn that tells of its failure if it failed, and of none otherwise.  No request is under way
behind it, so that whether one can be made depends on the session alone. -/
structure Turn.Candid {S : Type} [Session S] (turn : Turn S) (preamble : String) : Prop where
  /-- It failed exactly if one of its messages tells of a failure. -/
  failed_iff : (∃ failure, turn.result = .error failure) ↔
    ∃ message ∈ turn.messages, message.isError = true
  /-- The message about a failure is the last one and the only one of its kind, and it is shown. -/
  told : ∀ failure, turn.result = .error failure → ∃ earlier,
    turn.messages = earlier ++ [.error (preamble ++ failure.message)] ∧
      (∀ message ∈ earlier, message.isError = false) ∧
      turn.bench.current? = some (.error (preamble ++ failure.message))
  idle : turn.bench.busy = false
  canGenerate_eq : turn.bench.canGenerate = Session.isReady turn.bench.session

namespace Workbench

section Session

variable {S : Type} [Session S] {bench : Workbench S} {files : FileTree} {preamble : String}

/-! ## Turns -/

theorem canGenerate_of_idle (idle : bench.busy = false) :
    bench.canGenerate = Session.isReady bench.session := by
  rw [canGenerate, idle, Bool.not_false, Bool.true_and]

/-- A command that is carried out with a message that tells of no failure. -/
theorem candid_accept (idle : bench.busy = false) (answer : Answer)
    {message? : Option StatusMessage} (calm : ∀ message ∈ message?, message.isError = false) :
    (bench.accept files answer message?).Candid preamble where
  failed_iff := by
    refine ⟨fun ⟨_, failed⟩ => ?_, fun ⟨message, mem, error⟩ => ?_⟩
    · cases failed
    · have none := calm message (Option.mem_toList.mp mem)
      exact absurd (none.symm.trans error) Bool.false_ne_true
  told := fun _ failed => by cases failed
  idle := idle
  canGenerate_eq := canGenerate_of_idle idle

/-- A command that is refused with the message about its failure. -/
theorem candid_refuse (idle : bench.busy = false) (failure : Failure) {text : String}
    (same : text = preamble ++ failure.message) :
    (bench.refuse files failure text).Candid preamble where
  failed_iff := ⟨fun _ => ⟨.error text, List.mem_singleton_self _, rfl⟩, fun _ => ⟨failure, rfl⟩⟩
  told := by
    intro other failed
    cases failed
    subst same
    exact ⟨[], rfl, List.forall_mem_nil _, rfl⟩
  idle := idle
  canGenerate_eq := canGenerate_of_idle idle

/-- The message before a request is no message about a failure, and never the last one after
one. -/
theorem candid_afterSending {turn : Turn S} (candid : turn.Candid preamble)
    (request : GenerationRequest) : (turn.afterSending request).Candid preamble where
  failed_iff := by
    refine candid.failed_iff.trans
      ⟨fun ⟨message, mem, error⟩ => ?_, fun ⟨message, mem, error⟩ => ?_⟩
    · exact ⟨message, List.mem_cons_of_mem _ mem, error⟩
    · rcases List.mem_cons.mp mem with rfl | behind
      · cases error
      · exact ⟨message, behind, error⟩
  told := by
    intro failure failed
    obtain ⟨earlier, messages, calm, shown⟩ := candid.told failure failed
    refine ⟨.info generatingText :: earlier, ?_, ?_, shown⟩
    · rw [Turn.afterSending, messages, List.cons_append]
    · exact List.forall_mem_cons.mpr ⟨rfl, calm⟩
  idle := candid.idle
  canGenerate_eq := candid.canGenerate_eq

theorem candid_finish (idle : bench.busy = false) (outcome : Except Failure Report) :
    (bench.finish files outcome).Candid "Generation failed: " := by
  cases outcome with
  | ok report =>
      rw [finish_ok]
      refine candid_accept ?_ _ ?_
      · exact idle
      · rintro message ⟨⟩
        rfl
  | error failure =>
      rw [finish_error]
      exact candid_refuse idle failure rfl

theorem candid_ending (idle : bench.busy = false) {turn : Turn S} (ends : bench.Ending turn) :
    turn.Candid "Generation failed: " := by
  cases ends with
  | finished files outcome => exact candid_finish idle outcome
  | abandoned left =>
      refine candid_accept ?_ .abandoned fun _ mem => by cases mem
      exact idle
  | recording saved left =>
      refine candid_accept ?_ .abandoned fun _ mem => by cases mem
      exact idle

theorem candid_notReady (idle : bench.busy = false) :
    (bench.refuse files .notReady Failure.notReady.message).Candid "" :=
  candid_refuse idle .notReady String.empty_append.symm

theorem candid_reload (idle : bench.busy = false) (listing : Except Failure (List PatternName)) :
    (bench.reload files listing).Candid "Failed to load patterns: " := by
  cases listing with
  | ok names =>
      rw [reload]
      refine candid_accept ?_ _ fun message mem => ?_
      · exact idle
      · split at mem
        · obtain rfl := Option.some.inj mem
          rfl
        · cases mem
  | error failure =>
      rw [reload]
      refine candid_refuse ?_ failure rfl
      exact idle

end Session

/-! ## Commands -/

section Run

variable {S Edit : Type} [EditableSession S Edit] {deliver : Delivery} {bench : Workbench S}
  {files : FileTree}

/-- **A command tells of its failure if it fails, and of none otherwise**, as long as the changes of
the session do so. -/
theorem candid_perform (idle : bench.busy = false)
    (confirmed : ∀ (session : S) (files : FileTree) (change : Edit) (next : Edited S),
      EditableSession.edit session files change = .ok next →
        ∀ message ∈ next.message?, message.isError = false)
    (command : Command Edit) :
    (bench.perform deliver files command).Candid
      (command.preamble (Session.isReady bench.session)) := by
  cases asks : command.asks with
  | true =>
      have preamble : command.preamble (Session.isReady bench.session) =
          if Session.isReady bench.session then "Generation failed: " else "" := by
        cases command <;> first | rfl | cases asks
      rw [preamble]
      cases ready : Session.isReady bench.session with
      | true =>
          obtain ⟨ending, ends, same⟩ := perform_of_ready deliver files idle ready asks
          rw [same, if_pos rfl]
          exact candid_afterSending (candid_ending rfl ends) bench.request
      | false =>
          rw [perform_of_notReady idle ready asks, if_neg Bool.false_ne_true]
          exact candid_notReady idle
  | false =>
      cases command with
      | reload listing => exact candid_reload idle listing
      | edit change =>
          rw [perform, Workbench.edit, Command.preamble]
          split
          · rename_i next changed
            refine candid_accept ?_ _ (confirmed bench.session files change next changed)
            exact idle
          · rename_i failure _
            exact candid_refuse idle failure String.empty_append.symm
      | _ => cases asks

/-- What holds of one command holds of every command of a run. -/
theorem candid_of_run (idle : bench.busy = false)
    (confirmed : ∀ (session : S) (files : FileTree) (change : Edit) (next : Edited S),
      EditableSession.edit session files change = .ok next →
        ∀ message ∈ next.message?, message.isError = false)
    (past : List (Command Edit)) (command : Command Edit) (future : List (Command Edit)) :
    ∃ turn, (bench.run deliver files (past ++ command :: future))[past.length]? = some turn ∧
      turn.Candid (command.preamble (Session.isReady (bench.after deliver files past).1.session)) :=
  ⟨_, getElem?_run past command future,
    candid_perform (idle_after idle past).1 confirmed command⟩

end Run

end Workbench

/-! ## The changes of both kinds of sessions -/

theorem Plan.confirmed_edit (plan : Plan) (files : FileTree) (change : PlanEdit)
    (next : Edited Plan) (h : plan.edit files change = .ok next) :
    ∀ message ∈ next.message?, message.isError = false := by
  have configured {count : Nat} {answer : Answer}
      (h : plan.configureEdited files count answer = .ok next) :
      ∀ message ∈ next.message?, message.isError = false := by
    unfold configureEdited at h
    split at h
    · cases h
      rintro message ⟨⟩
      rfl
    · cases h
  unfold edit at h
  split at h
  · exact configured h
  · split at h
    · exact configured h
    · cases h
  · split at h
    · cases h
      rintro message ⟨⟩
    · cases h
  · cases h
    rintro message ⟨⟩
    rfl

theorem NumberedSelection.confirmed_edit (session : NumberedSelection) (files : FileTree)
    (change : NumberedEdit) (next : Edited NumberedSelection)
    (h : session.edit files change = .ok next) :
    ∀ message ∈ next.message?, message.isError = false := by
  unfold edit at h
  split at h
  · split at h
    · cases h
      rintro message ⟨⟩
    · cases h
  · cases h
    rintro message ⟨⟩
    rfl

/-! ## Runs -/

/-- **No failure is silent, and no success looks like one.**  At any moment of any run, with a plan
or with a numbered selection, a command fails exactly if one of its messages tells of a failure.
That message is then the last one and the only one of its kind, it is what is shown, and it says
what the failure says, behind a preamble for a listing or for a generation that was asked for.
After every command no request is under way, and one can be made whenever the session is ready. -/
theorem Workbench.failures_are_told (deliver : Delivery) (configured : Option String)
    (files : FileTree) :
    (∀ (plan : Plan) (past : List (Command PlanEdit)) (command : Command PlanEdit)
      (future : List (Command PlanEdit)),
      let bench := ofSession plan configured
      let before := (bench.after deliver files past).1
      ∃ turn, (bench.run deliver files (past ++ command :: future))[past.length]? = some turn ∧
        turn.Candid (command.preamble before.session.isReady)) ∧
    ∀ (session : NumberedSelection) (past : List (Command NumberedEdit))
      (command : Command NumberedEdit) (future : List (Command NumberedEdit)),
      let bench := ofSession session configured
      let before := (bench.after deliver files past).1
      ∃ turn, (bench.run deliver files (past ++ command :: future))[past.length]? = some turn ∧
        turn.Candid (command.preamble before.session.isReady) := by
  constructor
  · intro plan past command future bench before
    exact candid_of_run rfl Plan.confirmed_edit past command future
  · intro session past command future bench before
    exact candid_of_run rfl NumberedSelection.confirmed_edit past command future

example : ((Workbench.ofSession Plan.empty none).run (intoDirectory "out") (.empty ["home"])
    [.reload (.error (.catalogLoad "HTTP 500")), .edit (.configureFrom "0")]).map (·.messages) =
      [[.error "Failed to load patterns: HTTP 500"],
        [.error "Enter a refinement count of at least 1."]] := by
  rfl

end PatternRefinement
