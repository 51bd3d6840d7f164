import PatternRefinement.FileTree.Access
import PatternRefinement.Json.Reader
import PatternRefinement.Json.Printer
import PatternRefinement.Text.Blank

/-!
# The stored refinement counter

The number of the next refinement survives the program in a state file, a JSON object that may
hold other members as well.

## Main Definitions

* `CounterStore.load` — the stored number, or one
* `CounterStore.save` — the tree with another number stored
* `CounterStore.saveUpTo` — what is left when storing a number is given up
* `CounterStore.reset` — the tree with the number one stored

## Design Notes

Nothing here fails. A file that cannot be read, is no JSON object or holds no usable number
counts as one that says one, and a number that cannot be written is lost. Writing keeps the
other members of an object; anything that is no object is given up.
-/

namespace PatternRefinement

/-- The place where the number of the next refinement is stored. -/
structure CounterStore where
  path : String
  deriving Repr, DecidableEq

/-- The name of the member that holds the number. -/
def counterKey : String := "nextRefinementIndex"

/-- The number of the first refinement. -/
def firstRefinement : UInt32 := 1

/-- The number that follows, or the same one if 32 bits hold no greater one. -/
def nextRefinement (n : UInt32) : UInt32 :=
  if n.toNat + 1 < UInt32.size then n + 1 else n

/-- The whole number that a value states: an integer, or the digits of one in a string. -/
def wholeNumber? : Json.Value → Option Nat
  | .number (.integer n) => if 0 ≤ n then some n.toNat else none
  | .string text => Text.unsignedBelow? (Nat.pow 2 64) (Text.trim text.toList)
  | _ => none

/-- The refinement number that a value states: a whole number from one on that 32 bits hold. -/
def refinementNumber? (value : Json.Value) : Option UInt32 :=
  (wholeNumber? value).bind fun n =>
    if 1 ≤ n ∧ n < UInt32.size then some (UInt32.ofNat n) else none

namespace CounterStore

/-- The members of the state file in order of their names, if it holds a JSON object. -/
def readState? (store : CounterStore) (tree : FileTree) : Option (List (String × Json.Value)) :=
  match ((tree.readText? store.path).bind Json.read?).map Json.Value.canonical with
  | some (.object members) => some members
  | _ => none

/-- The stored number, or one if there is no usable one. -/
def load (store : CounterStore) (tree : FileTree) : UInt32 :=
  ((((store.readState? tree).bind (·.lookup counterKey)).bind refinementNumber?)).getD
    firstRefinement

/-- The text of a state file with the given number and the other members of an old one. -/
def stateText (old : List (String × Json.Value)) (number : UInt32) : String :=
  (Json.Value.object
    (Json.setMember counterKey (.number (.integer number.toNat)) old)).prettyText

/-- The tree with the directories above the state file, and whether they are there. -/
def makeParent (store : CounterStore) (tree : FileTree) : FileTree × Except FileError Unit :=
  match Path.parent? store.path with
  | some parent => tree.makeDirectories parent
  | none => (tree, .ok ())

/-- The tree with a number stored; what cannot be stored is lost. -/
def save (store : CounterStore) (number : UInt32) (tree : FileTree) : FileTree :=
  -- The old members are read before any directory is created.
  let text := stateText ((store.readState? tree).getD []) number
  match store.makeParent tree with
  | (prepared, .error _) => prepared
  | (prepared, .ok ()) =>
    match prepared.write store.path text.toUTF8 with
    | .ok written => written
    | .error _ => prepared

/-- The tree after the first steps of storing a number: the directories are made, and then the file
is written. -/
def saveUpTo (store : CounterStore) (number : UInt32) (tree : FileTree) : Nat → FileTree
  | 0 => tree
  | 1 => (store.makeParent tree).1
  | _ => store.save number tree

/-- The tree with the number one stored. -/
def reset (store : CounterStore) (tree : FileTree) : FileTree :=
  store.save firstRefinement tree

end CounterStore

end PatternRefinement
