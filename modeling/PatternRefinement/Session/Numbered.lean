import PatternRefinement.Session.Basic
import PatternRefinement.Counter

/-!
# Numbered selections

A session with one selection, labelled with the number of the refinement that is next. The
number is stored, so that the next run of the program goes on counting. This is the
`SingleStepSession`, the session of the mode with a single step.

## Main Definitions

* `NumberedSelection` — a catalog, a selection, the number and the place where it is stored
* `NumberedSelection.load` — the session that goes on with the stored number
* `NumberedSelection.toggle`, `NumberedSelection.replaceCatalog` — the changes
* `NumberedSelection.recordSuccess`, `NumberedSelection.resetCounter` — the changes of the number

## Design Notes

The number in the session counts, not the stored one: what happens to the state file in the
meantime changes nothing before the session is loaded again.
-/

namespace PatternRefinement

/-- One selection, labelled with the number of the next refinement. -/
structure NumberedSelection where
  catalog : Catalog
  selection : Selection
  counter : CounterStore
  /-- The label of the next request. -/
  refinement : UInt32
  deriving Repr, DecidableEq

namespace NumberedSelection

/-- The session without a selection that goes on with the stored number. -/
def load (catalog : Catalog) (counter : CounterStore) (files : FileTree) : NumberedSelection :=
  { catalog, selection := .empty, counter, refinement := counter.load files }

/-- The session with a pattern chosen, or no longer chosen; also tells whether it is chosen
now. -/
def toggle (session : NumberedSelection) (name : PatternName) :
    Except Failure (NumberedSelection × Bool) :=
  match session.selection.toggle session.catalog name with
  | .ok (selection, chosen) => .ok ({ session with selection }, chosen)
  | .error e => .error e

/-- The session under another catalog, and how many selected names it has lost. -/
def replaceCatalog (catalog : Catalog) (session : NumberedSelection) : NumberedSelection × Nat :=
  ({ session with catalog, selection := session.selection.keep catalog },
    session.selection.lost catalog)

/-- Whether there are patterns to choose from and one is chosen. -/
def isReady (session : NumberedSelection) : Bool :=
  !session.catalog.isEmpty && !session.selection.isEmpty

/-- The selection with its label. -/
def payload (session : NumberedSelection) : Payload :=
  .single session.refinement session.selection.names

/-- The session with the number that follows, which is stored. -/
def recordSuccess (session : NumberedSelection) (files : FileTree) :
    NumberedSelection × FileTree :=
  let refinement := nextRefinement session.refinement
  ({ session with refinement }, session.counter.save refinement files)

/-- The files after the first steps of storing the number that follows. -/
def recordUpTo? (steps : Nat) (session : NumberedSelection) (files : FileTree) :
    Option FileTree :=
  some (session.counter.saveUpTo (nextRefinement session.refinement) files steps)

/-- The session with the number one, which is stored. -/
def resetCounter (session : NumberedSelection) (files : FileTree) :
    NumberedSelection × FileTree :=
  ({ session with refinement := firstRefinement }, session.counter.reset files)

end NumberedSelection

instance : Session NumberedSelection where
  mode := .singleStep
  catalog := NumberedSelection.catalog
  replaceCatalog := NumberedSelection.replaceCatalog
  isReady := NumberedSelection.isReady
  stepCount := fun _ => 1
  payload := NumberedSelection.payload
  recordSuccess := NumberedSelection.recordSuccess
  recordUpTo? := NumberedSelection.recordUpTo?

end PatternRefinement
