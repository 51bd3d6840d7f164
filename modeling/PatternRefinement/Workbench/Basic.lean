import PatternRefinement.Session.Basic
import PatternRefinement.Archive
import PatternRefinement.Status

/-!
# The workbench

A workbench puts a session, the service and the download directory together: each thing that a
user does is one command, and each command has an outcome, messages and requests. This is the
`Composer` that a front end works with, over a session of either mode.

## Main Definitions

* `Workbench` — a session with the last message, the project, and whether a request is under way
* `Turn` — what a command came to
* `Workbench.reload`, `Workbench.generate` — what every session can do
* `Workbench.abandon`, `Workbench.abandonSaving`, `Workbench.abandonRecording` — a generation that
  is given up, at each of the points where it waits
* `EditableSession` — what can be done to a session beyond that
* `Command`, `Workbench.perform`, `Workbench.run` — commands, one and many

## Design Notes

The service is not asked from here. A command says how the service answers, so a run is
determined by its commands and the files it starts from. Saving an archive is a parameter as
well: it is given the files, the content and a name.

Whoever waits for a generation can give up where the generation itself waits: for the service, for
the archive to be saved, or for the session to store something. Nothing is told then. What has been
done so far stays, and the request is no longer under way.
-/

namespace PatternRefinement

/-- How an archive is saved: the files, its content and its name give the files afterwards and
the path that it got. -/
abbrev Delivery := FileTree → ByteArray → String → FileTree × Except DownloadFailure String

/-- What is left when saving an archive is given up. -/
abbrev PartialDelivery := FileTree → ByteArray → String → FileTree

/-- An archive that has been saved. -/
structure Report where
  archive : Archive
  /-- The path that the archive got. -/
  savedTo : String

/-- What a command that was carried out gives back. -/
inductive Answer where
  | done
  /-- The number of steps that was asked for. -/
  | stepCount (count : Nat)
  /-- Whether the pattern is chosen now. -/
  | chosen (now : Bool)
  /-- The number of the next refinement. -/
  | refinement (number : UInt32)
  | generated (report : Report)
  /-- Nobody waits for the generation any more. -/
  | abandoned

/-- A session at work. -/
structure Workbench (S : Type) where
  session : S
  projectName? : Option String
  /-- The last message. -/
  current? : Option StatusMessage
  /-- Whether a request is under way. -/
  busy : Bool

/-- What a command came to: the workbench and the files afterwards, its result, its messages in
order, and the requests that the service received. -/
structure Turn (S : Type) where
  bench : Workbench S
  files : FileTree
  result : Except Failure Answer
  messages : List StatusMessage
  requests : List GenerationRequest

/-- The message while the service is asked to generate. -/
def generatingText : String := "Generating files…"

/-- A turn with a request that was sent before what else happened in it. -/
def Turn.afterSending {S : Type} (turn : Turn S) (request : GenerationRequest) : Turn S :=
  { turn with
    messages := .info generatingText :: turn.messages
    requests := request :: turn.requests }

namespace Workbench

variable {S : Type}

/-- The workbench of a session for a project that may have no name or a blank one. -/
def ofSession (session : S) (configuredName : Option String) : Workbench S :=
  { session, projectName? := namedProject? configuredName, current? := none, busy := false }

/-- The workbench with another last message. -/
def report (bench : Workbench S) (message : StatusMessage) : Workbench S :=
  { bench with current? := some message }

/-- A command that is carried out, with at most one message. -/
def accept (bench : Workbench S) (files : FileTree) (answer : Answer)
    (message? : Option StatusMessage) : Turn S :=
  { bench := { bench with current? := message?.orElse fun _ => bench.current? },
    files, result := .ok answer, messages := message?.toList, requests := [] }

/-- A command that is refused; `text` is what the user is told. -/
def refuse (bench : Workbench S) (files : FileTree) (failure : Failure) (text : String) :
    Turn S :=
  { bench := bench.report (.error text), files, result := .error failure,
    messages := [.error text], requests := [] }

/-- Whether a generation can be asked for. -/
def canGenerate [Session S] (bench : Workbench S) : Bool :=
  !bench.busy && Session.isReady bench.session

/-- The request that the session stands for. -/
def request [Session S] (bench : Workbench S) : GenerationRequest :=
  { projectName? := bench.projectName?, payload := Session.payload bench.session }

/-- Takes over the listing of the service as the catalog. Without a listing the catalog is
empty. -/
def reload [Session S] (bench : Workbench S) (files : FileTree)
    (listing : Except Failure (List PatternName)) : Turn S :=
  match listing with
  | .ok names =>
    let catalog := Catalog.ofNames names
    let session := (Session.replaceCatalog catalog bench.session).1
    accept { bench with session } files .done
      (if catalog.isEmpty then some (.info "No patterns are available on the server.") else none)
  | .error failure =>
    let session := (Session.replaceCatalog Catalog.empty bench.session).1
    refuse { bench with session } files failure ("Failed to load patterns: " ++ failure.message)

/-! ### Generating -/

/-- The workbench with a request under way. -/
def start (bench : Workbench S) : Workbench S :=
  { bench.report (.info generatingText) with busy := true }

/-- The workbench without a request under way. -/
def release (bench : Workbench S) : Workbench S :=
  { bench with busy := false }

/-- Goes on with the request that the session stands for, if one can be made now: `go` says what
comes of it. -/
def ask [Session S] (bench : Workbench S) (files : FileTree)
    (go : Workbench S → GenerationRequest → Turn S) : Turn S :=
  if bench.busy then
    { bench, files, result := .error .busy, messages := [], requests := [] }
  else if !Session.isReady bench.session then
    refuse bench files .notReady Failure.notReady.message
  else
    let started := bench.start
    let request := started.request
    -- What comes of it is recorded and told when the request is no longer under way.
    (go started.release request).afterSending request

/-- The archive in an answer of the service. -/
def receive (stepCount : Nat) (answer : Except Failure Response) : Except Failure Archive :=
  match answer with
  | .error failure => .error failure
  | .ok response => Archive.ofResponse response stepCount

/-- Saves the archive in an answer of the service. -/
def obtain (deliver : Delivery) (files : FileTree) (stepCount : Nat)
    (answer : Except Failure Response) : FileTree × Except Failure Report :=
  match receive stepCount answer with
  | .error failure => (files, .error failure)
  | .ok archive =>
    match deliver files archive.content archive.fileName with
    | (files, .error cause) => (files, .error (.downloadFailed cause))
    | (files, .ok savedTo) => (files, .ok { archive, savedTo })

/-- Ends a generation: a saved archive is recorded in the session and shown to the user, and a
failure is shown. -/
def finish [Session S] (bench : Workbench S) (files : FileTree)
    (outcome : Except Failure Report) : Turn S :=
  match outcome with
  | .ok report =>
    let (session, files) := Session.recordSuccess bench.session files
    accept { bench with session } files (.generated report) (some (.info report.archive.summary))
  | .error failure =>
    refuse bench files failure ("Generation failed: " ++ failure.message)

/-- Asks the service for an archive and saves it. -/
def generate [Session S] (deliver : Delivery) (bench : Workbench S) (files : FileTree)
    (answer : GenerationRequest → Except Failure Response) : Turn S :=
  bench.ask files fun bench request =>
    let (files, outcome) := obtain deliver files (Session.stepCount bench.session) (answer request)
    finish bench files outcome

/-! ### Giving up -/

/-- Asks the service for an archive and gives up before it answers. -/
def abandon [Session S] (bench : Workbench S) (files : FileTree) : Turn S :=
  bench.ask files fun bench _ => accept bench files .abandoned none

/-- Asks the service for an archive and gives up while that is saved, if there is one. -/
def abandonSaving [Session S] (leave : PartialDelivery) (bench : Workbench S) (files : FileTree)
    (answer : GenerationRequest → Except Failure Response) : Turn S :=
  bench.ask files fun bench request =>
    match receive (Session.stepCount bench.session) (answer request) with
    | .error failure => finish bench files (.error failure)
    | .ok archive =>
      accept bench (leave files archive.content archive.fileName) .abandoned none

/-- Asks the service for an archive, saves it, and gives up after some steps of recording that, if
it comes to it and the session waits for something. -/
def abandonRecording [Session S] (deliver : Delivery) (bench : Workbench S) (files : FileTree)
    (answer : GenerationRequest → Except Failure Response) (steps : Nat) : Turn S :=
  bench.ask files fun bench request =>
    let (files, outcome) := obtain deliver files (Session.stepCount bench.session) (answer request)
    match outcome, Session.recordUpTo? steps bench.session files with
    | .ok _, some left =>
      let (session, _) := Session.recordSuccess bench.session files
      accept { bench with session } left .abandoned none
    | outcome, _ => finish bench files outcome

end Workbench

/-! ### Commands -/

/-- A change of a session that was carried out. -/
structure Edited (S : Type) where
  session : S
  files : FileTree
  answer : Answer
  message? : Option StatusMessage

/-- A session with changes of its own. -/
class EditableSession (S : Type) (Edit : outParam Type) extends Session S where
  edit : S → FileTree → Edit → Except Failure (Edited S)

/-- What a user can do at a workbench. -/
inductive Command (Edit : Type) where
  /-- Asks the service for its patterns, and this is what it answers. -/
  | reload (listing : Except Failure (List PatternName))
  /-- Asks the service for an archive, and this is what it answers. -/
  | generate (answer : GenerationRequest → Except Failure Response)
  /-- Asks the service for an archive and gives up before it answers. -/
  | abandon
  /-- Asks the service for an archive and gives up while that is saved, which leaves this. -/
  | abandonSaving (answer : GenerationRequest → Except Failure Response) (leave : PartialDelivery)
  /-- Asks the service for an archive and gives up after some steps of recording that it was
  saved. -/
  | abandonRecording (answer : GenerationRequest → Except Failure Response) (steps : Nat)
  | edit (change : Edit)

namespace Workbench

variable {S Edit : Type} [EditableSession S Edit]

/-- Changes the session. -/
def edit (bench : Workbench S) (files : FileTree) (change : Edit) : Turn S :=
  match EditableSession.edit bench.session files change with
  | .ok edited =>
    accept { bench with session := edited.session } edited.files edited.answer edited.message?
  | .error failure => refuse bench files failure failure.message

/-- Carries out a command. -/
def perform (deliver : Delivery) (bench : Workbench S) (files : FileTree) :
    Command Edit → Turn S
  | .reload listing => bench.reload files listing
  | .generate answer => bench.generate deliver files answer
  | .abandon => bench.abandon files
  | .abandonSaving answer leave => bench.abandonSaving leave files answer
  | .abandonRecording answer steps => bench.abandonRecording deliver files answer steps
  | .edit change => bench.edit files change

/-- Carries out commands one after the other, whether they are refused or not. -/
def run (deliver : Delivery) (bench : Workbench S) (files : FileTree) :
    List (Command Edit) → List (Turn S)
  | [] => []
  | command :: rest =>
    let turn := bench.perform deliver files command
    turn :: run deliver turn.bench turn.files rest

end Workbench

end PatternRefinement
