import PatternRefinement.Service.Basic
import PatternRefinement.Workbench.Edits

/-!
# A workbench with its service

## Main Definitions

* `Turn.andThen` — one more command, unless the last one was refused
* `Choice` — a change that depends on the session it finds
* `Workbench.reloadFrom` — takes over the listing of a service
* `Workbench.produce` — from the listing of a service to a saved archive

## Design Notes

A sequence of commands ends at the first one that is refused, and counts as one turn: the messages
and requests of all its commands in order, and what the last one came to.
-/

namespace PatternRefinement

/-- Carries out one more command, unless the last one was refused. -/
def Turn.andThen {S Edit : Type} [EditableSession S Edit] (deliver : Delivery) (turn : Turn S)
    (command : Command Edit) : Turn S :=
  match turn.result with
  | .error _ => turn
  | .ok _ =>
    let next := turn.bench.perform deliver turn.files command
    { next with
      messages := turn.messages ++ next.messages
      requests := turn.requests ++ next.requests }

/-- A change that depends on the session it finds, where it may be that nothing is to be changed. -/
abbrev Choice (S Edit : Type) := S → Option Edit

/-- A change that is made whatever the session. -/
def Choice.always {S Edit : Type} (change : Edit) : Choice S Edit := fun _ => some change

/-- Makes a choice, unless the last command was refused. -/
def Turn.andThenChoose {S Edit : Type} [EditableSession S Edit] (deliver : Delivery)
    (turn : Turn S) (choice : Choice S Edit) : Turn S :=
  match choice turn.bench.session with
  | some change => turn.andThen deliver (.edit change)
  | none => turn

namespace Workbench

/-- Takes over the listing of a service. -/
def reloadFrom {S : Type} [Session S] (bench : Workbench S) (files : FileTree) (service : Service)
    (network : Network) (past : List Exchange) : List Exchange × Turn S :=
  let (past, listing) := service.list network past
  (past, bench.reload files listing)

/-- Takes over the listing of a service, changes the session, has an archive generated, and saves
it. -/
def produce {S Edit : Type} [EditableSession S Edit] (deliver : Delivery) (bench : Workbench S)
    (files : FileTree) (service : Service) (network : Network) (choices : List (Choice S Edit)) :
    List Exchange × Turn S :=
  let (listed, reloaded) := bench.reloadFrom files service network []
  let answer (request : GenerationRequest) := (service.generate network listed request).2
  let chosen := choices.foldl (Turn.andThenChoose deliver) reloaded
  let turn := chosen.andThen deliver (.generate answer)
  (turn.requests.foldl (fun past request => (service.generate network past request).1) listed, turn)

end Workbench

end PatternRefinement
