import PatternRefinement.CommandLine.Usage
import PatternRefinement.Workbench.Service

/-!
# The program

One run of the program, from the words of its command line to what it prints and leaves behind.

## Main Definitions

* `Surroundings` — what a run depends on beside its command line
* `Performance` — what a job came to
* `Job.perform` — carries out a job with settings
* `Outcome` — what a run leaves behind
* `Program.run` — one run

## Design Notes

Everything that a job prints is a message. Messages of failures go to the error output, each
behind a mark, and all others to the output. The program ends with 0 if the job is done, with 1 if
it fails or its settings are wrong, and with 2 if the command line is.
-/

namespace PatternRefinement

/-- What a run depends on beside its command line. -/
structure Surroundings where
  environment : Environment
  files : FileTree
  network : Network

/-- What a job came to. -/
structure Performance where
  succeeded : Bool
  messages : List StatusMessage
  exchanges : List Exchange
  files : FileTree

namespace Performance

/-- A job that is done without the service. -/
def done (files : FileTree) (text : String) : Performance :=
  { succeeded := true, messages := [.info text], exchanges := [], files }

/-- A job that nothing came of. -/
def failed (files : FileTree) (failure : Failure) : Performance :=
  { succeeded := false, messages := [.error failure.message], exchanges := [], files }

/-- A job that ended with a turn; `closing` is what is told about the session if the turn was not
refused. -/
def ofTurn {S : Type} (exchanges : List Exchange) (turn : Turn S)
    (closing : S → List StatusMessage) : Performance :=
  match turn.result with
  | .ok _ =>
    { succeeded := true, messages := turn.messages ++ closing turn.bench.session, exchanges,
      files := turn.files }
  | .error _ => { succeeded := false, messages := turn.messages, exchanges, files := turn.files }

end Performance

/-! ### Jobs -/

/-- What is told about the number of the next refinement. -/
def nextRefinementText (number : UInt32) : String :=
  "next refinement: " ++ Text.decimal number.toNat

/-- What is told about a refinement that was generated. -/
def refinementText (number next : UInt32) : String :=
  "refinement " ++ Text.decimal number.toNat ++ " generated; next is " ++ Text.decimal next.toNat

/-- The changes that make an empty plan hold the patterns of texts, one text for each step. -/
def planEdits (steps : List String) (stepCount? : Option String) : List PlanEdit :=
  (match stepCount? with
    | some raw => .configureFrom raw
    | none => .configure steps.length) ::
  -- Steps are numbered from one.
  steps.zipIdx.flatMap fun (step, place) => (splitNames step).map (.toggle (place + 1))

/-- The choice of a pattern.  Another toggle would give up what has been chosen. -/
def choosePattern (name : PatternName) : Choice NumberedSelection NumberedEdit := fun session =>
  if session.selection.contains name then none else some (.toggle name)

/-- The choices that make a selection hold the patterns of texts. -/
def selectionChoices (patterns : List String) : List (Choice NumberedSelection NumberedEdit) :=
  (patterns.flatMap splitNames).map choosePattern

namespace Job

variable (settings : Settings) (surroundings : Surroundings)

/-- The store that the settings name. -/
def counterStore : CounterStore := ⟨settings.statePath⟩

/-- Lists the patterns of a service. -/
def listPatterns (service : Service) : Performance :=
  let bench := Workbench.ofSession Plan.empty none
  let (exchanges, turn) := bench.reloadFrom surroundings.files service surroundings.network []
  .ofTurn exchanges turn fun plan => plan.catalog.names.map .info

/-- Has a service generate an archive from a plan. -/
def generatePlan (steps : List String) (stepCount? : Option String) (service : Service) :
    Performance :=
  let bench := Workbench.ofSession Plan.empty settings.projectName?
  let (exchanges, turn) := bench.produce (intoDirectory settings.downloadDirectory)
    surroundings.files service surroundings.network ((planEdits steps stepCount?).map .always)
  .ofTurn exchanges turn fun _ => []

/-- Has a service generate the archive of the next refinement. -/
def generateNext (patterns : List String) (service : Service) : Performance :=
  let session := NumberedSelection.load .empty (counterStore settings) surroundings.files
  let bench := Workbench.ofSession session settings.projectName?
  let (exchanges, turn) := bench.produce (intoDirectory settings.downloadDirectory)
    surroundings.files service surroundings.network (selectionChoices patterns)
  .ofTurn exchanges turn fun after =>
    [.info (refinementText session.refinement after.refinement)]

/-- Carries out a job with the service that the settings name. -/
def withService (job : Service → Performance) : Performance :=
  match Service.ofUrl settings.serverUrl with
  | .ok service => job service
  | .error failure => .failed surroundings.files failure

/-- Carries out a job. -/
def perform : Job → Performance
  | .patterns => withService settings surroundings (listPatterns surroundings)
  | .generate steps stepCount? _ =>
    withService settings surroundings (generatePlan settings surroundings steps stepCount?)
  | .generateSingle choices _ =>
    withService settings surroundings (generateNext settings surroundings choices)
  | .counter =>
    .done surroundings.files
      (nextRefinementText ((counterStore settings).load surroundings.files))
  | .resetCounter =>
    .done ((counterStore settings).reset surroundings.files) counterResetText

end Job

/-! ### Runs -/

/-- What a run leaves behind. -/
structure Outcome where
  exitCode : Nat
  output : String
  errors : String
  exchanges : List Exchange
  files : FileTree

/-- Messages as lines of the output. -/
def outputText (messages : List StatusMessage) : String :=
  String.join ((messages.filter (!·.isError)).map (·.text ++ "\n"))

/-- Messages as lines of the error output. -/
def errorText (messages : List StatusMessage) : String :=
  String.join ((messages.filter (·.isError)).map ("error: " ++ ·.text ++ "\n"))

namespace Outcome

/-- The outcome of a run that carried out a job. -/
def ofPerformance (performance : Performance) : Outcome :=
  { exitCode := if performance.succeeded then 0 else 1
    output := outputText performance.messages, errors := errorText performance.messages
    exchanges := performance.exchanges, files := performance.files }

/-- The outcome of a run without settings. -/
def ofSettingsFailure (files : FileTree) (failure : SettingsFailure) : Outcome :=
  { exitCode := 1, output := "", errors := "Error: " ++ failure.message ++ "\n", exchanges := [],
    files }

/-- The outcome of a run that only tells how the program is used. -/
def ofUsage (files : FileTree) (error : CommandLineError) : Outcome :=
  { exitCode := error.exitCode
    output := if error.exitCode = 0 then error.message else ""
    errors := if error.exitCode = 0 then "" else error.message
    exchanges := [], files }

end Outcome

namespace Program

/-- The settings of a command line. -/
def settings (line : CommandLine) (surroundings : Surroundings) :
    Except SettingsFailure Settings :=
  (Settings.load surroundings.files surroundings.environment line.config?).map
    (Settings.override · line.overrides)

/-- One run of the program. -/
def run (words : List String) (surroundings : Surroundings) : Outcome :=
  match CommandLine.read words with
  | .error e => .ofUsage surroundings.files e
  | .ok line =>
    match settings line surroundings with
    | .error failure => .ofSettingsFailure surroundings.files failure
    | .ok settings => .ofPerformance (line.job.perform settings surroundings)

end Program

end PatternRefinement
