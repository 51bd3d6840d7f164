import PatternRefinement.Catalog
import PatternRefinement.Request
import PatternRefinement.FileTree.Basic

/-!
# Sessions

What a user has chosen so far, in one of two modes: a sequence of steps that each have a
selection, or one selection that is labelled with a number.

## Main Definitions

* `GenerationMode` — the two modes
* `Session` — what a workbench needs from a session, whichever mode it is in

## Design Notes

A session only changes when it is told to. What it stores beyond itself, it stores in the file
tree that `recordSuccess` is given, and it has changed by the time that it begins to store.
-/

namespace PatternRefinement

/-- The two ways of asking for refinements. -/
inductive GenerationMode where
  /-- One selection, labelled with a number that is kept from one run to the next. -/
  | singleStep
  /-- A selection for each of a sequence of steps. -/
  | multiStep
  deriving Repr, DecidableEq

/-- What a workbench needs from a session. -/
class Session (S : Type) where
  mode : GenerationMode
  catalog : S → Catalog
  /-- The session under another catalog, and how many selected names it has lost. -/
  replaceCatalog : Catalog → S → S × Nat
  /-- Whether a request can be made from the session. -/
  isReady : S → Bool
  stepCount : S → Nat
  payload : S → Payload
  /-- The session, and the files, after an archive has been saved. -/
  recordSuccess : S → FileTree → S × FileTree
  /-- The files if recording a success is given up after some steps. A session that waits for no
  file cannot be given up meanwhile. -/
  recordUpTo? : Nat → S → FileTree → Option FileTree

end PatternRefinement
