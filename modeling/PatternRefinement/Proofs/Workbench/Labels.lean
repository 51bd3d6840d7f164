import PatternRefinement.Proofs.Counter
import PatternRefinement.Proofs.Workbench.Reports
import PatternRefinement.Workbench.Edits

/-!
# The labels of numbered selections

Each request of a numbered selection is labelled with the number that it went on with, or one after
a reset, and one more for every archive that has been saved and recorded since.

## Main Definitions

* `Count` — what a command was for the number of a session
* `Tally` — the number that a session went on with, and how many archives have been recorded since
* `Workbench.reached` — the files that a command finds when the number is to be stored
* `Moment`, `Occurrence` — commands, and sessions that are loaded anew in between
* `Moment.Undisturbed` — nobody else writes the state file, and it can be written

## Main Statements

* `NumberedSelection.perform_cases` — what a command does to the number and to the files
* `NumberedSelection.labels_of_run` — the labels of all requests, and what is stored meanwhile
* `NumberedSelection.number_not_stored` — storing a number can be given up, and then it is not
  stored

## Design Notes

The labels follow from the session alone, whatever happens to the files.  That the stored number
keeps up with the session needs a state file that only the session writes; then a session that is
loaded anew has the number that the old one had.

A session counts before it stores.  Whoever gives up in between leaves a session that has counted,
and a state file that may be behind until the next number is stored.
-/

namespace PatternRefinement

/-! ## Counting -/

/-- What a command was for the number of a session. -/
inductive Count where
  /-- The number has stayed as it was. -/
  | kept
  /-- An archive has been saved, and the number that follows was to be stored. -/
  | counted
  /-- An archive has been saved, and storing the number that follows was given up. -/
  | cutOff
  /-- The counter was reset. -/
  | reset
  deriving Repr, DecidableEq

/-- What a command was for the number of a session, given what it came to. -/
def Command.count {S Edit : Type} (command : Command Edit) (turn : Turn S) : Count :=
  match command, turn.result with
  | _, .ok (.refinement _) => .reset
  | _, .ok (.generated _) => .counted
  | .abandonRecording _ _, .ok .abandoned => .cutOff
  | _, _ => .kept

/-- What the commands of a run were for the number of the session. -/
def Workbench.counts {S Edit : Type} [EditableSession S Edit] (deliver : Delivery)
    (bench : Workbench S) (files : FileTree) (commands : List (Command Edit)) : List Count :=
  List.zipWith Command.count commands (bench.run deliver files commands)

namespace Count

/-- Whether the number is to be stored, and nobody gives up meanwhile. -/
def stores : Count → Bool
  | .kept => false
  | .counted => true
  | .cutOff => false
  | .reset => true

/-- Whether no storing has been given up since the last one that was not. -/
def settled (counts : List Count) : Bool :=
  counts.foldl (fun settled count => count.stores || (settled && count != .cutOff)) true

theorem settled_concat (counts : List Count) (count : Count) :
    settled (counts ++ [count]) = (count.stores || (settled counts && count != .cutOff)) := by
  rw [settled, List.foldl_append]
  rfl

end Count

/-- The number that a session went on with, and how many archives have been recorded since. -/
structure Tally where
  base : Nat
  successes : Nat

namespace Tally

/-- The tally after a command: a reset begins with one again, and a recorded archive counts. -/
def next (tally : Tally) : Count → Tally
  | .kept => tally
  | .counted | .cutOff => { tally with successes := tally.successes + 1 }
  | .reset => ⟨firstRefinement.toNat, 0⟩

/-- The tally of a session that went on with a number, after some commands. -/
def ofCounts (loaded : UInt32) (counts : List Count) : Tally :=
  counts.foldl next ⟨loaded.toNat, 0⟩

theorem ofCounts_concat (loaded : UInt32) (counts : List Count) (count : Count) :
    ofCounts loaded (counts ++ [count]) = (ofCounts loaded counts).next count := by
  rw [ofCounts, List.foldl_append]
  rfl

end Tally

/-- The files that a command finds when the number is to be stored: a generation has saved its
archive by then, or nobody waits for that any more. -/
def Workbench.reached {S Edit : Type} [Session S] (deliver : Delivery) (bench : Workbench S)
    (files : FileTree) (command : Command Edit) : FileTree :=
  if Session.isReady bench.session then
    let stepCount := Session.stepCount bench.session
    match command with
    | .generate answer => (obtain deliver files stepCount (answer bench.request)).1
    | .abandonRecording answer _ => (obtain deliver files stepCount (answer bench.request)).1
    | .abandonSaving answer leave =>
      match receive stepCount (answer bench.request) with
      | .ok archive => leave files archive.content archive.fileName
      | .error _ => files
    | .abandon => files
    | .reload _ => files
    | .edit _ => files
  else files

namespace NumberedSelection

variable {deliver : Delivery} {bench : Workbench NumberedSelection} {files : FileTree}

/-- What a command can do to the number and to the files. -/
inductive Effect (session : NumberedSelection) (reached : FileTree)
    (turn : Turn NumberedSelection) : Count → Prop
  /-- Nothing is stored. -/
  | kept (refinement_eq : turn.bench.session.refinement = session.refinement)
      (files_eq : turn.files = reached) : Effect session reached turn .kept
  /-- An archive has been saved. -/
  | counted (refinement_eq : turn.bench.session.refinement = nextRefinement session.refinement)
      (files_eq : turn.files = session.counter.save (nextRefinement session.refinement) reached) :
      Effect session reached turn .counted
  /-- An archive has been saved, and storing the number was given up. -/
  | cutOff (steps : Nat)
      (refinement_eq : turn.bench.session.refinement = nextRefinement session.refinement)
      (files_eq : turn.files =
        session.counter.saveUpTo (nextRefinement session.refinement) reached steps) :
      Effect session reached turn .cutOff
  /-- The counter was reset. -/
  | reset (refinement_eq : turn.bench.session.refinement = firstRefinement)
      (files_eq : turn.files = session.counter.save firstRefinement reached) :
      Effect session reached turn .reset

theorem edit_toggle_eq_ok {session : NumberedSelection} {name : PatternName}
    {next : Edited NumberedSelection} (h : session.edit files (.toggle name) = .ok next) :
    next.session.refinement = session.refinement ∧ next.session.counter = session.counter ∧
      next.files = files ∧ ∃ now, next.answer = .chosen now := by
  rw [edit] at h
  cases toggled : session.toggle name with
  | error failure =>
      rw [toggled] at h
      cases h
  | ok result =>
      obtain ⟨changed, now⟩ := result
      rw [toggled] at h
      cases h
      unfold toggle at toggled
      split at toggled
      · cases toggled
        exact ⟨rfl, rfl, rfl, now, rfl⟩
      · cases toggled

/-- Choosing a pattern leaves the number as it is. -/
theorem count_toggle (deliver : Delivery) (bench : Workbench NumberedSelection)
    (files : FileTree) (name : PatternName) :
    (Command.edit (NumberedEdit.toggle name)).count
      (bench.perform deliver files (.edit (.toggle name))) = .kept := by
  rw [Workbench.perform, Workbench.edit]
  split
  · rename_i edited changed
    obtain ⟨-, -, -, now, answer⟩ := edit_toggle_eq_ok changed
    simp only [Command.count, Workbench.accept, answer]
  · rfl

/-- A command that asks for no archive leaves the number alone, or starts with one again. -/
theorem effect_of_not_asks (deliver : Delivery) (bench : Workbench NumberedSelection)
    (files : FileTree) {command : Command NumberedEdit} (asks : command.asks = false) :
    let turn := bench.perform deliver files command
    Effect bench.session files turn (command.count turn) ∧
      turn.bench.session.counter = bench.session.counter := by
  cases command with
  | reload listing => cases listing <;> exact ⟨.kept rfl rfl, rfl⟩
  | edit change =>
      cases change with
      | resetCounter => exact ⟨.reset rfl rfl, rfl⟩
      | toggle name =>
          dsimp only
          rw [count_toggle, Workbench.perform, Workbench.edit]
          split
          · rename_i edited changed
            obtain ⟨refinement, counter, filesEq, -⟩ := edit_toggle_eq_ok changed
            exact ⟨.kept refinement filesEq, counter⟩
          · exact ⟨.kept rfl rfl, rfl⟩
  | _ => cases asks

/-- A command that asks for an archive leaves the number alone, or counts on. -/
theorem effect_of_ready (deliver : Delivery) (files : FileTree) (idle : bench.busy = false)
    (ready : Session.isReady bench.session = true) {command : Command NumberedEdit}
    (asks : command.asks = true) :
    let turn := bench.perform deliver files command
    Effect bench.session (bench.reached deliver files command) turn (command.count turn) ∧
      turn.bench.session.counter = bench.session.counter := by
  dsimp only
  rw [Workbench.reached, if_pos ready]
  cases command with
  | reload listing => cases asks
  | edit change => cases asks
  | generate answer =>
      rw [Workbench.perform, Workbench.generate_of_ready idle ready]
      dsimp only
      cases Workbench.obtain deliver files (Session.stepCount bench.session)
          (answer bench.request) with
      | mk after outcome =>
          cases outcome with
          | ok report => exact ⟨.counted rfl rfl, rfl⟩
          | error failure => exact ⟨.kept rfl rfl, rfl⟩
  | abandon =>
      rw [Workbench.perform, Workbench.abandon, Workbench.ask_of_ready idle ready]
      exact ⟨.kept rfl rfl, rfl⟩
  | abandonSaving answer leave =>
      rw [Workbench.perform, Workbench.abandonSaving, Workbench.ask_of_ready idle ready]
      dsimp only [Workbench.release, Workbench.start, Workbench.report]
      cases Workbench.receive (Session.stepCount bench.session) (answer bench.request) with
      | ok archive => exact ⟨.kept rfl rfl, rfl⟩
      | error failure => exact ⟨.kept rfl rfl, rfl⟩
  | abandonRecording answer steps =>
      rw [Workbench.perform, Workbench.abandonRecording, Workbench.ask_of_ready idle ready]
      dsimp only [Workbench.release, Workbench.start, Workbench.report]
      cases Workbench.obtain deliver files (Session.stepCount bench.session)
          (answer bench.request) with
      | mk after outcome =>
          cases outcome with
          | ok report => exact ⟨.cutOff steps rfl rfl, rfl⟩
          | error failure => exact ⟨.kept rfl rfl, rfl⟩

/-- **A command leaves the number alone, counts on, or starts with one again**, and the session
keeps the place where the number is stored. -/
theorem perform_cases (deliver : Delivery) (files : FileTree) (idle : bench.busy = false)
    (command : Command NumberedEdit) :
    let turn := bench.perform deliver files command
    Effect bench.session (bench.reached deliver files command) turn (command.count turn) ∧
      turn.bench.session.counter = bench.session.counter := by
  dsimp only
  cases asks : command.asks with
  | false =>
      have reached : bench.reached deliver files command = files := by
        unfold Workbench.reached
        cases command <;> first | exact ite_self files | cases asks
      rw [reached]
      exact effect_of_not_asks deliver bench files asks
  | true =>
      cases ready : Session.isReady bench.session with
      | true => exact effect_of_ready deliver files idle ready asks
      | false =>
          have reached : bench.reached deliver files command = files := by
            rw [Workbench.reached, ready]
            rfl
          have kept : command.count (bench.refuse files .notReady Failure.notReady.message) =
              .kept := by
            cases command <;> rfl
          rw [reached, Workbench.perform_of_notReady idle ready asks, kept]
          exact ⟨.kept rfl rfl, rfl⟩

/-! ## The labels -/

/-- What holds of a numbered selection at work at every moment. -/
structure Counting (store : CounterStore) (bench : Workbench NumberedSelection) (tally : Tally) :
    Prop where
  idle : bench.busy = false
  counter_eq : bench.session.counter = store
  refinement_eq : bench.session.refinement.toNat =
    min (2 ^ 32 - 1) (tally.base + tally.successes)
  one_le : 1 ≤ tally.base

variable {store : CounterStore} {tally : Tally}

theorem counting_load (catalog : Catalog) (store : CounterStore) (configured : Option String)
    (files : FileTree) :
    Counting store (.ofSession (load catalog store files) configured)
      (Tally.ofCounts (store.load files) []) where
  idle := rfl
  counter_eq := rfl
  refinement_eq := by
    have bound := (store.load files).toNat_lt
    show (store.load files).toNat = min (2 ^ 32 - 1) ((store.load files).toNat + 0)
    omega
  one_le := store.one_le_load files

/-- The number that follows is that of a tally with one more. -/
theorem Counting.refinement_next (counting : Counting store bench tally) :
    (nextRefinement bench.session.refinement).toNat =
      min (2 ^ 32 - 1) (tally.base + (tally.successes + 1)) := by
  have refinement := counting.refinement_eq
  rw [toNat_nextRefinement]
  omega

/-- Every command keeps count. -/
theorem Counting.perform (counting : Counting store bench tally) (command : Command NumberedEdit) :
    Counting store (bench.perform deliver files command).bench
      (tally.next (command.count (bench.perform deliver files command))) := by
  obtain ⟨effect, counter⟩ := perform_cases deliver files counting.idle command
  refine ⟨(Workbench.idle_perform counting.idle command).1, counter.trans counting.counter_eq,
    ?_, ?_⟩
  · generalize command.count _ = count at effect
    cases effect with
    | kept same _ => exact same ▸ counting.refinement_eq
    | counted same _ => exact same ▸ counting.refinement_next
    | cutOff _ same _ => exact same ▸ counting.refinement_next
    | reset same _ =>
        rw [same]
        rfl
  · cases command.count (bench.perform deliver files command) with
    | reset => exact Nat.le_refl 1
    | _ => exact counting.one_le

/-- Every request is labelled with the number of the session. -/
theorem Counting.label (counting : Counting store bench tally) {command : Command NumberedEdit}
    {request : GenerationRequest}
    (sent : request ∈ (bench.perform deliver files command).requests) :
    ∃ label patterns, request.payload = .single label patterns ∧
      label.toNat = min (2 ^ 32 - 1) (tally.base + tally.successes) := by
  rw [Workbench.requests_perform counting.idle] at sent
  split at sent
  · obtain rfl := List.mem_singleton.mp sent
    exact ⟨_, _, rfl, counting.refinement_eq⟩
  · cases sent

/-- Commands keep count. -/
theorem Counting.after (counting : Counting store bench tally)
    (commands : List (Command NumberedEdit)) :
    Counting store (bench.after deliver files commands).1
      ((bench.counts deliver files commands).foldl Tally.next tally) := by
  induction commands generalizing bench files tally with
  | nil => exact counting
  | cons command rest ih => exact ih (counting.perform command)

/-! ## Sessions that are loaded anew -/

/-- What can happen to a session: a command, or that another session takes its place that is loaded
from the state file. -/
inductive Occurrence where
  | command (command : Command NumberedEdit)
  | restart (catalog : Catalog) (configured : Option String)

/-- A session at work, the files, and what the commands so far were for the number. -/
structure Moment where
  bench : Workbench NumberedSelection
  files : FileTree
  counts : List Count

namespace Moment

/-- The moment after something has happened. -/
def next (deliver : Delivery) (moment : Moment) : Occurrence → Moment
  | .command command =>
    let turn := moment.bench.perform deliver moment.files command
    ⟨turn.bench, turn.files, moment.counts ++ [command.count turn]⟩
  | .restart catalog configured =>
    let session := load catalog moment.bench.session.counter moment.files
    { moment with bench := .ofSession session configured }

/-- The moment after several things have happened, one after the other. -/
def after (deliver : Delivery) (moment : Moment) (occurrences : List Occurrence) : Moment :=
  occurrences.foldl (next deliver) moment

/-- Nobody but the session writes the state file while something happens, and when the session
does, it can.  Another session takes its place only where its number has been stored. -/
def Leaves (deliver : Delivery) (moment : Moment) : Occurrence → Prop
  | .command command =>
    let reached := moment.bench.reached deliver moment.files command
    moment.bench.session.counter.stored? reached =
        moment.bench.session.counter.stored? moment.files ∧
      ((command.count (moment.bench.perform deliver moment.files command)).stores = true →
        moment.bench.session.counter.Writable reached)
  | .restart _ _ => Count.settled moment.counts = true

/-- Nobody but the session writes the state file, whatever happens, and the session always can. -/
def Undisturbed (deliver : Delivery) : Moment → List Occurrence → Prop
  | _, [] => True
  | moment, occurrence :: rest =>
    moment.Leaves deliver occurrence ∧ (moment.next deliver occurrence).Undisturbed deliver rest

/-- What holds at every moment if nobody else writes the state file. -/
structure Sound (store : CounterStore) (start : FileTree) (moment : Moment) : Prop where
  counting : Counting store moment.bench (Tally.ofCounts (store.load start) moment.counts)
  stored : Count.settled moment.counts = true →
    store.load moment.files = moment.bench.session.refinement
  untouched : (∀ count ∈ moment.counts, count = .kept) →
    store.stored? moment.files = store.stored? start

variable {start : FileTree} {moment : Moment}

theorem sound_load (catalog : Catalog) (store : CounterStore) (configured : Option String)
    (start : FileTree) :
    Sound store start ⟨.ofSession (load catalog store start) configured, start, []⟩ :=
  ⟨counting_load catalog store configured start, fun _ => rfl, fun _ => rfl⟩

/-- A command keeps the state file in step with the session, unless storing is given up. -/
theorem Sound.command (sound : Sound store start moment) {command : Command NumberedEdit}
    (leaves : moment.Leaves deliver (.command command)) :
    Sound store start (moment.next deliver (.command command)) := by
  obtain ⟨counting, stored, untouched⟩ := sound
  obtain ⟨same, writable⟩ := leaves
  rw [counting.counter_eq] at same writable
  have counted : Counting store (moment.next deliver (.command command)).bench _ :=
    counting.perform command
  rw [← Tally.ofCounts_concat] at counted
  have effect := (perform_cases deliver moment.files counting.idle command).1
  refine ⟨counted, fun settled => ?_, fun quiet => ?_⟩
  · rw [show (moment.next deliver (.command command)).counts = _ ++ [_] from rfl,
      Count.settled_concat] at settled
    show store.load (moment.bench.perform deliver moment.files command).files =
      (moment.bench.perform deliver moment.files command).bench.session.refinement
    generalize command.count _ = count at effect settled writable
    cases effect with
    | kept refinement files =>
        rw [files, refinement, CounterStore.load_congr same]
        exact stored (Bool.and_eq_true_iff.mp settled).1
    | counted refinement files =>
        have positive : 1 ≤ (nextRefinement moment.bench.session.refinement).toNat := by
          rw [toNat_nextRefinement]
          omega
        rw [files, refinement, counting.counter_eq]
        exact CounterStore.load_save (writable rfl) positive
    | cutOff _ _ _ => exact absurd (Bool.and_eq_true_iff.mp settled).2 Bool.false_ne_true
    | reset refinement files =>
        rw [files, refinement, counting.counter_eq]
        exact CounterStore.load_save (writable rfl) (Nat.le_refl 1)
  · have before := untouched fun count mem => quiet count (List.mem_append_left _ mem)
    have now : command.count _ = .kept := quiet _ (List.mem_append_right _ List.mem_cons_self)
    show store.stored? (moment.bench.perform deliver moment.files command).files = _
    rw [now] at effect
    obtain ⟨-, files⟩ := effect
    rw [files, same, before]

/-- A session that is loaded anew goes on with the same number. -/
theorem Sound.restart (sound : Sound store start moment) {catalog : Catalog}
    {configured : Option String} (leaves : moment.Leaves deliver (.restart catalog configured)) :
    Sound store start (moment.next deliver (.restart catalog configured)) := by
  obtain ⟨counting, stored, untouched⟩ := sound
  have loaded : (moment.bench.session.counter.load moment.files) =
      moment.bench.session.refinement := by
    rw [counting.counter_eq]
    exact stored leaves
  refine ⟨⟨rfl, counting.counter_eq, ?_, counting.one_le⟩, fun _ => ?_, untouched⟩
  · show (moment.bench.session.counter.load moment.files).toNat = _
    rw [loaded]
    exact counting.refinement_eq
  · show _ = moment.bench.session.counter.load moment.files
    rw [loaded]
    exact stored leaves

theorem Sound.after (sound : Sound store start moment) {occurrences : List Occurrence}
    (undisturbed : moment.Undisturbed deliver occurrences) :
    Sound store start (moment.after deliver occurrences) := by
  induction occurrences generalizing moment with
  | nil => exact sound
  | cons occurrence rest ih =>
      obtain ⟨leaves, behind⟩ := undisturbed
      cases occurrence with
      | command command => exact ih (sound.command leaves) behind
      | restart catalog configured => exact ih (sound.restart leaves) behind

end Moment

/-- **The labels of all requests.**  A session that is loaded goes on with a number from one on.
In any run from there every request is labelled with the number that the session went on with, or
with one after a reset, and one more for each archive that has been saved and recorded since, as far
as 32 bits reach.  A generation that is given up counts if that is done while its number is stored,
and not if it is done before.

If nobody but the session writes the state file meanwhile and the session always can, then nothing
is written there before the first archive that is recorded and the first reset.  The stored number is
that of the session at every moment, unless storing a number has been given up since the last one
that was stored.  So sessions that are loaded anew where the number has been stored change no
label. -/
theorem labels_of_run (deliver : Delivery) (catalog : Catalog) (store : CounterStore)
    (configured : Option String) (files : FileTree) :
    let bench := Workbench.ofSession (load catalog store files) configured
    1 ≤ (store.load files).toNat ∧
    (∀ (past : List (Command NumberedEdit)) (command : Command NumberedEdit)
      (future : List (Command NumberedEdit)),
      let tally := Tally.ofCounts (store.load files) (bench.counts deliver files past)
      ∃ turn, (bench.run deliver files (past ++ command :: future))[past.length]? = some turn ∧
        ∀ request ∈ turn.requests, ∃ label patterns,
          request.payload = .single label patterns ∧
          label.toNat = min (2 ^ 32 - 1) (tally.base + tally.successes)) ∧
    ∀ occurrences, Moment.Undisturbed deliver ⟨bench, files, []⟩ occurrences →
      let now := Moment.after deliver ⟨bench, files, []⟩ occurrences
      let tally := Tally.ofCounts (store.load files) now.counts
      ((∀ count ∈ now.counts, count = .kept) → store.stored? now.files = store.stored? files) ∧
      (Count.settled now.counts = true →
        store.load now.files = now.bench.session.refinement) ∧
      ∀ command : Command NumberedEdit,
        ∀ request ∈ (now.bench.perform deliver now.files command).requests, ∃ label patterns,
          request.payload = .single label patterns ∧
          label.toNat = min (2 ^ 32 - 1) (tally.base + tally.successes) := by
  intro bench
  refine ⟨store.one_le_load files, ?_, ?_⟩
  · intro past command future tally
    have counting : Counting store (bench.after deliver files past).1 tally :=
      (counting_load catalog store configured files).after past
    exact ⟨_, Workbench.getElem?_run past command future, fun request => counting.label⟩
  · intro occurrences undisturbed now tally
    have sound : Moment.Sound store files now :=
      (Moment.sound_load catalog store configured files).after undisturbed
    exact ⟨sound.untouched, sound.stored, fun command request => sound.counting.label⟩

/-- Storing a number is given up, and with the next archive the state file has caught up. -/
theorem labels_of_run_caught_up :
    let store : CounterStore := ⟨"state.json"⟩
    let files := FileTree.empty ["home"]
    let bench := Workbench.ofSession (load ⟨["north"]⟩ store files) none
    let answer : GenerationRequest → Except Failure Response := fun _ => .ok ⟨200, [], ⟨#[80]⟩⟩
    let occurrences : List Occurrence := [.restart ⟨["north"]⟩ (some "Atlas"),
      .command (.edit (.toggle "north")), .command (.abandonRecording answer 1),
      .command (.generate answer)]
    Moment.Undisturbed (intoDirectory "out") ⟨bench, files, []⟩ occurrences ∧
      let now := Moment.after (intoDirectory "out") ⟨bench, files, []⟩ occurrences
      store.load now.files = now.bench.session.refinement ∧
      ∀ request ∈ (now.bench.perform (intoDirectory "out") now.files .abandon).requests,
        ∃ label patterns, request.payload = .single label patterns ∧ label.toNat = 3 := by
  intro store files bench answer occurrences
  have counts : (Moment.after (intoDirectory "out") ⟨bench, files, []⟩ occurrences).counts =
      [.kept, .cutOff, .counted] := by
    decide +kernel +revert
  have loaded : store.load files = 1 := by decide +kernel +revert
  have undisturbed : Moment.Undisturbed (intoDirectory "out") ⟨bench, files, []⟩ occurrences := by
    refine ⟨rfl, ⟨rfl, fun stores => ?_⟩, ⟨?_, fun stores => ?_⟩, ⟨?_, fun _ => ?_⟩, trivial⟩
    · exact absurd stores (by rw [count_toggle]; exact Bool.false_ne_true)
    · decide +kernel +revert
    · exact absurd stores (by decide +kernel +revert)
    · decide +kernel +revert
    · exact CounterStore.writable_of_write ⟨#[]⟩ (by decide +kernel +revert)
        (by decide +kernel +revert)
  obtain ⟨-, -, kept⟩ := labels_of_run (intoDirectory "out") ⟨["north"]⟩ store none files
  obtain ⟨-, stored, labels⟩ := kept occurrences undisturbed
  -- Both sides are compared as they are written, so that no run has to be computed.
  subst bench
  rw [counts, loaded] at labels
  rw [counts] at stored
  refine ⟨undisturbed, stored rfl, fun request sent => ?_⟩
  exact labels .abandon request sent

/-- **A number that a session has counted need not be stored.**  Storing it is given up here before
anything is written.  No command has given a report, but the next request has the second label, and
a session that is loaded anew has the first one. -/
theorem number_not_stored :
    let store : CounterStore := ⟨"state.json"⟩
    let files := FileTree.empty ["home"]
    let bench := Workbench.ofSession (load ⟨["north"]⟩ store files) none
    let commands : List (Command NumberedEdit) := [.edit (.toggle "north"),
      .abandonRecording (fun _ => .ok ⟨200, [], ⟨#[80]⟩⟩) 0]
    let now := bench.after (intoDirectory "out") files commands
    store.load files = 1 ∧
      (bench.run (intoDirectory "out") files commands).map (·.report?.isSome) = [false, false] ∧
      store.stored? now.2 = none ∧
      (now.1.perform (intoDirectory "out") now.2 .abandon).requests =
        [⟨none, .single 2 ["north"]⟩] ∧
      (load ⟨["north"]⟩ store now.2).refinement = 1 := by
  decide +kernel

end NumberedSelection

end PatternRefinement
