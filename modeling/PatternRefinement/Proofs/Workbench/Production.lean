import PatternRefinement.Proofs.Workbench.Erasure
import PatternRefinement.Workbench.Service

/-!
# From a listing to an archive

A production is a sequence of commands that ends at the first one that is refused: the listing, the
changes of the session that are chosen, and one generation.

## Main Definitions

* `chooseAll` — the session after choices, or the failure of the first change that is refused
* `Workbench.prepared` — the session that a production asks from
* `Turn.Reached`, `Turn.Refused` — what has happened before a generation is asked for

## Main Statements

* `Workbench.produce_of_refused` — nothing is sent unless the session is prepared and ready
* `Workbench.produce_of_ready` — one request is sent if it is, and the turn ends as a generation
* `Workbench.files_of_produce_error` — a production that fails leaves the files as they are when
  saving the archive fails, if it comes to that

## Design Notes

Changes of a session are free to change files, and resetting the counter does.  The changes of a
production do not, and all statements are about such changes.  A choice finds the session that the
choices before it have left, so what is chosen depends on all of them.
-/

namespace PatternRefinement

section

variable {S Edit : Type} [EditableSession S Edit]

/-! ## Many changes -/

/-- The session after choices, one after the other, or the failure of the first change that is
refused. -/
def chooseAll (files : FileTree) (session : S) : List (Choice S Edit) → Except Failure S
  | [] => .ok session
  | choice :: rest =>
    match choice session with
    | none => chooseAll files session rest
    | some change =>
      match EditableSession.edit session files change with
      | .ok edited => chooseAll files edited.session rest
      | .error failure => .error failure

/-- A choice that leaves the files alone, whatever the session. -/
def LeavesFiles (files : FileTree) (choice : Choice S Edit) : Prop :=
  ∀ (session : S) (change : Edit) (edited : Edited S), choice session = some change →
    EditableSession.edit session files change = .ok edited → edited.files = files

/-! ## Before the generation -/

/-- A turn that was not refused and has sent nothing. -/
structure Turn.Reached (turn : Turn S) (session : S) (files : FileTree)
    (projectName? : Option String) : Prop where
  accepted : ∃ answer, turn.result = .ok answer
  idle : turn.bench.busy = false
  session_eq : turn.bench.session = session
  projectName?_eq : turn.bench.projectName? = projectName?
  files_eq : turn.files = files
  requests_eq : turn.requests = []

/-- A turn that was refused before it has sent anything. -/
structure Turn.Refused (turn : Turn S) (files : FileTree) (failure : Failure) : Prop where
  result_eq : turn.result = .error failure
  files_eq : turn.files = files
  requests_eq : turn.requests = []

/-- A turn that has sent one request, and has ended with what came of the answer: an archive that
was saved is recorded in the session. -/
structure Turn.Ended (turn : Turn S) (session : S) (request : GenerationRequest)
    (obtained : FileTree × Except Failure Report) : Prop where
  requests_eq : turn.requests = [request]
  failed : ∀ failure, obtained.2 = .error failure →
    turn.result = .error failure ∧ turn.files = obtained.1
  saved : ∀ report, obtained.2 = .ok report → turn.result = .ok (.generated report) ∧
    (turn.bench.session, turn.files) = Session.recordSuccess session obtained.1

/-- A turn that has sent a request succeeds if an archive is obtained. -/
theorem Turn.Ended.isOk_result {turn : Turn S} {session : S} {request : GenerationRequest}
    {obtained : FileTree × Except Failure Report}
    (ended : turn.Ended session request obtained) : turn.result.isOk = obtained.2.isOk := by
  cases outcome : obtained.2 with
  | error failure =>
      rw [(ended.failed failure outcome).1]
      rfl
  | ok report =>
      rw [(ended.saved report outcome).1]
      rfl

variable (deliver : Delivery) {turn : Turn S} {session : S} {files : FileTree}
  {projectName? : Option String}

/-- Nothing more is carried out after a refusal. -/
theorem Turn.andThen_of_error {failure : Failure} (refused : turn.result = .error failure)
    (command : Command Edit) : turn.andThen deliver command = turn := by
  rw [Turn.andThen, refused]

/-- Nothing more is chosen after a refusal. -/
theorem Turn.choices_of_error {failure : Failure} (refused : turn.result = .error failure)
    (choices : List (Choice S Edit)) :
    choices.foldl (Turn.andThenChoose deliver) turn = turn := by
  induction choices with
  | nil => rfl
  | cons choice rest ih =>
      have same : turn.andThenChoose deliver choice = turn := by
        unfold Turn.andThenChoose
        split
        · exact Turn.andThen_of_error deliver refused _
        · rfl
      rw [List.foldl_cons, same, ih]

/-- A change that is accepted, after a turn that was not refused. -/
theorem Turn.Reached.edit {change : Edit} {edited : Edited S}
    (reached : turn.Reached session files projectName?)
    (leaves : edited.files = files)
    (accepted : EditableSession.edit session files change = .ok edited) :
    (turn.andThen deliver (.edit change)).Reached edited.session files projectName? := by
  obtain ⟨⟨_, before⟩, idle, rfl, rfl, rfl, nothing⟩ := reached
  rw [Turn.andThen, before]
  dsimp only [Workbench.perform, Workbench.edit]
  rw [accepted, nothing]
  exact ⟨⟨edited.answer, rfl⟩, idle, rfl, rfl, leaves, rfl⟩

/-- A change that is refused, after a turn that was not. -/
theorem Turn.Reached.edit_refused {change : Edit} {failure : Failure}
    (reached : turn.Reached session files projectName?)
    (refused : EditableSession.edit session files change = .error failure) :
    (turn.andThen deliver (.edit change)).Refused files failure := by
  obtain ⟨⟨_, before⟩, idle, rfl, rfl, rfl, nothing⟩ := reached
  rw [Turn.andThen, before]
  dsimp only [Workbench.perform, Workbench.edit]
  rw [refused, nothing]
  exact ⟨rfl, rfl, rfl⟩

/-- A choice changes what it finds. -/
theorem Turn.Reached.andThenChoose (reached : turn.Reached session files projectName?)
    (choice : Choice S Edit) : turn.andThenChoose deliver choice =
      match choice session with
      | some change => turn.andThen deliver (.edit change)
      | none => turn := by
  cases chosen : choice session <;> simp only [Turn.andThenChoose, reached.session_eq, chosen]

/-- Choices that are all accepted lead to the session after them. -/
theorem Turn.Reached.choices {choices : List (Choice S Edit)} {after : S}
    (leaves : ∀ choice ∈ choices, LeavesFiles files choice)
    (reached : turn.Reached session files projectName?)
    (done : chooseAll files session choices = .ok after) :
    (choices.foldl (Turn.andThenChoose deliver) turn).Reached after files projectName? := by
  induction choices generalizing turn session with
  | nil =>
      cases done
      exact reached
  | cons choice rest ih =>
      obtain ⟨first, others⟩ := List.forall_mem_cons.mp leaves
      rw [List.foldl_cons, reached.andThenChoose]
      rw [chooseAll] at done
      cases chosen : choice session with
      | none =>
          rw [chosen] at done
          exact ih others reached done
      | some change =>
          rw [chosen] at done
          dsimp only at done ⊢
          split at done
          · rename_i edited accepted
            exact ih others (reached.edit deliver (first _ _ _ chosen accepted) accepted) done
          · cases done

/-- Choices that are not all accepted end the turn. -/
theorem Turn.Reached.choices_refused {choices : List (Choice S Edit)} {failure : Failure}
    (leaves : ∀ choice ∈ choices, LeavesFiles files choice)
    (reached : turn.Reached session files projectName?)
    (refused : chooseAll files session choices = .error failure) :
    (choices.foldl (Turn.andThenChoose deliver) turn).Refused files failure := by
  induction choices generalizing turn session with
  | nil => cases refused
  | cons choice rest ih =>
      obtain ⟨first, others⟩ := List.forall_mem_cons.mp leaves
      rw [List.foldl_cons, reached.andThenChoose]
      rw [chooseAll] at refused
      cases chosen : choice session with
      | none =>
          rw [chosen] at refused
          exact ih others reached refused
      | some change =>
          rw [chosen] at refused
          dsimp only at refused ⊢
          split at refused
          · rename_i edited accepted
            exact ih others (reached.edit deliver (first _ _ _ chosen accepted) accepted) refused
          · rename_i cause error
            cases refused
            have ended := reached.edit_refused deliver error
            rw [Turn.choices_of_error deliver ended.result_eq]
            exact ended

/-! ## The generation -/

/-- A session that is not ready is not asked from. -/
theorem Turn.Reached.generate_refused
    (answer : GenerationRequest → Except Failure Response)
    (reached : turn.Reached session files projectName?)
    (notReady : Session.isReady session = false) :
    (turn.andThen deliver (.generate answer)).Refused files .notReady := by
  obtain ⟨⟨_, accepted⟩, idle, rfl, rfl, rfl, nothing⟩ := reached
  rw [Turn.andThen, accepted]
  dsimp only [Workbench.perform]
  rw [Workbench.generate_of_notReady idle notReady, nothing]
  exact ⟨rfl, rfl, rfl⟩

/-- A session that is ready is asked from. -/
theorem Turn.Reached.generate
    (answer : GenerationRequest → Except Failure Response)
    (reached : turn.Reached session files projectName?)
    (ready : Session.isReady session = true) :
    (turn.andThen deliver (.generate answer)).Ended session ⟨projectName?, Session.payload session⟩
      (Workbench.obtain deliver files (Session.stepCount session)
        (answer ⟨projectName?, Session.payload session⟩)) := by
  obtain ⟨⟨_, accepted⟩, idle, rfl, rfl, rfl, nothing⟩ := reached
  rw [Turn.andThen, accepted]
  dsimp only [Workbench.perform]
  rw [Workbench.generate_of_ready idle ready, nothing, ← Workbench.request]
  generalize Workbench.obtain deliver turn.files (Session.stepCount turn.bench.session)
    (answer turn.bench.request) = obtained
  refine ⟨?_, fun failure failed => ?_, fun report saved => ?_⟩
  · rw [Turn.afterSending, Workbench.finish_requests, List.nil_append]
  · rw [failed]
    exact ⟨rfl, rfl⟩
  · rw [saved, Workbench.finish_ok]
    exact ⟨rfl, rfl⟩

end

namespace Workbench

/-- An archive is obtained if the response has one that can be saved. -/
theorem isOk_obtain {deliver : Delivery} {files : FileTree} {stepCount : Nat}
    {response : Response} {archive : Archive} {savedTo : String}
    (archived : Archive.ofResponse response stepCount = .ok archive)
    (saved : (deliver files archive.content archive.fileName).2 = .ok savedTo) :
    (obtain deliver files stepCount (.ok response)).2.isOk = true := by
  have delivered : deliver files archive.content archive.fileName =
      ((deliver files archive.content archive.fileName).1, .ok savedTo) := Prod.ext rfl saved
  simp only [obtain, receive, archived]
  rw [delivered]
  rfl

variable {S Edit : Type} [EditableSession S Edit] {deliver : Delivery} {bench : Workbench S}
  {files : FileTree} {service : Service} {network : Network} {choices : List (Choice S Edit)}
  {listed : List Exchange} {names : List PatternName}

/-- The session that a generation is asked from after a listing. -/
def prepared (session : S) (files : FileTree) (names : List PatternName)
    (choices : List (Choice S Edit)) : Except Failure S :=
  chooseAll files (Session.replaceCatalog (.ofNames names) session).1 choices

/-- The session that a listing leads to. -/
theorem reached_reload (files : FileTree) (idle : bench.busy = false) (names : List PatternName) :
    (bench.reload files (.ok names)).Reached
      (Session.replaceCatalog (.ofNames names) bench.session).1 files bench.projectName? where
  accepted := ⟨.done, rfl⟩
  idle := idle
  session_eq := rfl
  projectName?_eq := rfl
  files_eq := rfl
  requests_eq := rfl

/-! ## The turn of a production -/

/-- The turn of a production: the commands that follow the listing, one after the other. -/
def productionTurn (deliver : Delivery) (bench : Workbench S) (files : FileTree)
    (listing : Except Failure (List PatternName)) (choices : List (Choice S Edit))
    (answer : GenerationRequest → Except Failure Response) : Turn S :=
  (choices.foldl (Turn.andThenChoose deliver) (bench.reload files listing)).andThen deliver
    (.generate answer)

variable (deliver : Delivery) (answer : GenerationRequest → Except Failure Response)

/-- A session that cannot be prepared, or is not ready then, ends the turn before anything is
sent. -/
theorem refused_productionTurn (idle : bench.busy = false)
    (leaves : ∀ choice ∈ choices, LeavesFiles files choice)
    (unready : ∀ session, prepared bench.session files names choices = .ok session →
      Session.isReady session = false) :
    ∃ failure, (bench.productionTurn deliver files (.ok names) choices answer).Refused
      files failure := by
  have reached := reached_reload files idle names
  rw [productionTurn]
  cases done : prepared bench.session files names choices with
  | error failure =>
      have refused := reached.choices_refused deliver leaves done
      refine ⟨failure, ?_⟩
      rw [Turn.andThen_of_error deliver refused.result_eq]
      exact refused
  | ok session =>
      have edited := reached.choices deliver leaves done
      exact ⟨.notReady, edited.generate_refused deliver answer (unready session done)⟩

/-- A session that is prepared and ready is asked from. -/
theorem ended_productionTurn (idle : bench.busy = false)
    (leaves : ∀ choice ∈ choices, LeavesFiles files choice) {session : S}
    (done : prepared bench.session files names choices = .ok session)
    (ready : Session.isReady session = true) :
    let request := ⟨bench.projectName?, Session.payload session⟩
    (bench.productionTurn deliver files (.ok names) choices answer).Ended session request
      (obtain deliver files (Session.stepCount session) (answer request)) := by
  rw [productionTurn]
  have edited := (reached_reload files idle names).choices deliver leaves done
  exact edited.generate deliver answer ready

/-- A turn that fails leaves the files as they were, or as they are when the archive could not be
saved. -/
theorem files_productionTurn (idle : bench.busy = false)
    (leaves : ∀ choice ∈ choices, LeavesFiles files choice)
    {listing : Except Failure (List PatternName)} {failure : Failure}
    (failed : (bench.productionTurn deliver files listing choices answer).result =
      .error failure) :
    let turn := bench.productionTurn deliver files listing choices answer
    turn.files = files ∨
      ∃ content name cause, deliver files content name = (turn.files, .error cause) := by
  have refused_files (unready : ∃ failure,
      (bench.productionTurn deliver files listing choices answer).Refused files failure) :
      (bench.productionTurn deliver files listing choices answer).files = files :=
    unready.elim fun _ refused => refused.files_eq
  cases listing with
  | error cause =>
      refine Or.inl (refused_files ⟨cause, ?_⟩)
      rw [productionTurn, Turn.choices_of_error deliver rfl, Turn.andThen_of_error deliver rfl]
      exact ⟨rfl, rfl, rfl⟩
  | ok names =>
      by_cases unready : ∀ session, prepared bench.session files names choices = .ok session →
          Session.isReady session = false
      · exact Or.inl (refused_files (refused_productionTurn deliver answer idle leaves unready))
      push Not at unready
      obtain ⟨session, done, ready⟩ := unready
      have ended := ended_productionTurn deliver answer idle leaves done
        (eq_true_of_ne_false ready)
      dsimp only at ended ⊢
      cases obtained : obtain deliver files (Session.stepCount session)
          (answer ⟨bench.projectName?, Session.payload session⟩) with
      | mk after outcome =>
          rw [obtained] at ended
          cases outcome with
          | ok report => cases failed.symm.trans (ended.saved report rfl).1
          | error cause =>
              rw [(ended.failed cause rfl).2]
              rcases obtain_eq_error obtained with same | ⟨content, name, cause, delivered, -⟩
              · exact Or.inl same
              · exact Or.inr ⟨content, name, cause, delivered⟩

/-! ## The production -/

variable {deliver}

theorem produce_of_list (listing : service.list network [] = (listed, .ok names)) :
    bench.produce deliver files service network choices =
      let turn := bench.productionTurn deliver files (.ok names) choices
        fun request => (service.generate network listed request).2
      (turn.requests.foldl (fun past request => (service.generate network past request).1) listed,
        turn) := by
  unfold produce reloadFrom
  rw [listing]
  rfl

/-- **Nothing is sent unless the session is prepared and ready.** -/
theorem produce_of_refused (idle : bench.busy = false)
    (listing : service.list network [] = (listed, .ok names))
    (leaves : ∀ choice ∈ choices, LeavesFiles files choice)
    (unready : ∀ session, prepared bench.session files names choices = .ok session →
      Session.isReady session = false) :
    (bench.produce deliver files service network choices).1 = listed ∧
      ∃ failure, (bench.produce deliver files service network choices).2.Refused files failure := by
  obtain ⟨failure, refused⟩ := refused_productionTurn deliver
    (fun request => (service.generate network listed request).2) idle leaves unready
  rw [produce_of_list listing]
  refine ⟨?_, failure, refused⟩
  dsimp only
  rw [refused.requests_eq, List.foldl_nil]

/-- **One request is sent if the session is prepared and ready.** -/
theorem produce_of_ready (idle : bench.busy = false)
    (listing : service.list network [] = (listed, .ok names))
    (leaves : ∀ choice ∈ choices, LeavesFiles files choice) {session : S}
    (done : prepared bench.session files names choices = .ok session)
    (ready : Session.isReady session = true) :
    let request := ⟨bench.projectName?, Session.payload session⟩
    (bench.produce deliver files service network choices).1 =
        (service.generate network listed request).1 ∧
      (bench.produce deliver files service network choices).2.Ended session request
        (obtain deliver files (Session.stepCount session)
          (service.generate network listed request).2) := by
  have ended := ended_productionTurn deliver
    (fun request => (service.generate network listed request).2) idle leaves done ready
  intro request
  rw [produce_of_list listing]
  refine ⟨?_, ended⟩
  dsimp only
  rw [ended.requests_eq, List.foldl_cons, List.foldl_nil]

/-- **A production that fails leaves the files as they were**, or as they are when the archive could
not be saved. -/
theorem files_of_produce_error (idle : bench.busy = false)
    (leaves : ∀ choice ∈ choices, LeavesFiles files choice) {failure : Failure}
    (failed : (bench.produce deliver files service network choices).2.result = .error failure) :
    let turn := (bench.produce deliver files service network choices).2
    turn.files = files ∨
      ∃ content name cause, deliver files content name = (turn.files, .error cause) := by
  have turn_eq : (bench.produce deliver files service network choices).2 =
      bench.productionTurn deliver files (service.list network []).2 choices fun request =>
        (service.generate network (service.list network []).1 request).2 := by
    unfold produce reloadFrom
    cases service.list network [] with
    | mk listed listing => rfl
  rw [turn_eq] at failed ⊢
  exact files_productionTurn deliver _ idle leaves failed

end Workbench

end PatternRefinement
