import PatternRefinement.Proofs.Workbench.Runs

/-!
# Reports

## Main Definitions

* `Turn.report?` — the report that a turn gives
* `Workbench.Reports` — what has happened in a generation that gives a report

## Main Statements

* `Workbench.reports_of_generate` — a report is given for an archive that was saved, recorded and
  told about, in this order

## Design Notes

A generation can end in many ways, and only one of them gives a report.  What is to be said about
reports is said about this one, without looking at the others again.
-/

namespace PatternRefinement

/-- An archive that was read from a response holds its body. -/
theorem Archive.content_of_ofResponse {response : Response} {stepCount : Nat} {archive : Archive}
    (read : Archive.ofResponse response stepCount = .ok archive) :
    archive.content = response.body := by
  unfold Archive.ofResponse at read
  split at read
  · cases read
    rfl
  · cases read

/-- The report that a turn gives. -/
def Turn.report? {S : Type} (turn : Turn S) : Option Report :=
  match turn.result with
  | .ok (.generated report) => some report
  | _ => none

theorem Turn.result_of_report? {S : Type} {turn : Turn S} {report : Report}
    (given : turn.report? = some report) : turn.result = .ok (.generated report) := by
  unfold Turn.report? at given
  split at given
  · rename_i result
    rw [result, Option.some.inj given]
  · cases given

namespace Workbench

variable {S : Type} [Session S]

/-- What has happened in a generation that gives a report: the service has answered, and the archive
in its answer was saved, recorded and told about. -/
structure Reports (deliver : Delivery) (bench : Workbench S) (files : FileTree)
    (answer : GenerationRequest → Except Failure Response) (report : Report)
    (response : Response) (delivered : FileTree) : Prop where
  answered : answer bench.request = .ok response
  read : Archive.ofResponse response (Session.stepCount bench.session) = .ok report.archive
  saved : deliver files response.body report.archive.fileName = (delivered, .ok report.savedTo)
  files_eq : (bench.generate deliver files answer).files =
    (Session.recordSuccess bench.session delivered).2
  current_eq : (bench.generate deliver files answer).bench.current? =
    some (.info report.archive.summary)
  messages_eq : (bench.generate deliver files answer).messages =
    [.info generatingText, .info report.archive.summary]

variable {deliver : Delivery} {bench : Workbench S} {files : FileTree}
  {answer : GenerationRequest → Except Failure Response} {report : Report}

/-- An archive is received in a response that was answered. -/
theorem receive_eq_ok {stepCount : Nat} {answer : Except Failure Response} {archive : Archive}
    (received : receive stepCount answer = .ok archive) :
    ∃ response, answer = .ok response ∧ Archive.ofResponse response stepCount = .ok archive := by
  unfold receive at received
  split at received
  · cases received
  · exact ⟨_, rfl, received⟩

/-- A report is obtained for an archive that was saved. -/
theorem of_obtain_eq_ok {stepCount : Nat} {answer : Except Failure Response} {delivered : FileTree}
    (obtained : obtain deliver files stepCount answer = (delivered, .ok report)) :
    ∃ response, answer = .ok response ∧
      Archive.ofResponse response stepCount = .ok report.archive ∧
      deliver files response.body report.archive.fileName = (delivered, .ok report.savedTo) := by
  unfold obtain at obtained
  split at obtained
  · cases obtained
  rename_i archive received
  obtain ⟨response, answered, read⟩ := receive_eq_ok received
  split at obtained
  · cases obtained
  · rename_i saved
    cases obtained
    rw [Archive.content_of_ofResponse read] at saved
    exact ⟨response, answered, read, saved⟩

/-- **A report is given for an archive that was saved, recorded and told about.** -/
theorem reports_of_generate
    (generated : (bench.generate deliver files answer).result = .ok (.generated report)) :
    ∃ response delivered, Reports deliver bench files answer report response delivered := by
  cases idle : bench.busy with
  | true =>
      rw [generate, ask_of_busy idle] at generated
      cases generated
  | false =>
      cases ready : Session.isReady bench.session with
      | false =>
          rw [generate_of_notReady idle ready] at generated
          cases generated
      | true =>
          cases obtained : obtain deliver files (Session.stepCount bench.session)
              (answer bench.request) with
          | mk delivered outcome =>
              have turn : bench.generate deliver files answer =
                  (bench.start.release.finish delivered outcome).afterSending bench.request := by
                rw [generate_of_ready idle ready, obtained]
              rw [turn] at generated
              cases outcome with
              | error failure => cases generated
              | ok found =>
                  cases generated
                  obtain ⟨response, answered, read, saved⟩ := of_obtain_eq_ok obtained
                  refine ⟨response, delivered, answered, read, saved, ?_, ?_, ?_⟩
                  all_goals
                    rw [turn]
                    rfl

end Workbench

end PatternRefinement
