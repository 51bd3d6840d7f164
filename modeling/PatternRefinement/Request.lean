import PatternRefinement.Failure
import PatternRefinement.Text.Blank
import PatternRefinement.Json.Reader
import PatternRefinement.Json.Printer

/-!
# Generation requests

What the service is asked to generate, and the body that asks for it.

## Main Definitions

* `Payload` — one numbered selection, or a sequence of selections
* `GenerationRequest` — a payload, and the project it is for
* `GenerationRequest.body` — the text of a request
* `GenerationRequest.ofJson?` — the request that a JSON value asks for
* `namedProject?` — the project that a configured name stands for

## Design Notes

A request does not say which payload it has: that follows from its members. The members of one
numbered selection are looked for first. A member that is repeated, or whose value does not
fit, makes a payload unusable, but not the request, as long as the other payload is there. The
project is different: repeated or unfit it spoils the request. All other members are ignored.
-/

namespace PatternRefinement

/-- The patterns that the service is asked to apply. -/
inductive Payload where
  /-- One selection, labelled with the number of the refinement. -/
  | single (refinement : UInt32) (patterns : List PatternName)
  /-- A selection for each step. -/
  | steps (refinements : List (List PatternName))
  deriving Repr, DecidableEq

/-- How many refinements a payload asks for. -/
def Payload.stepCount : Payload → Nat
  | .single _ _ => 1
  | .steps refinements => refinements.length

/-- What the service is asked to generate. -/
structure GenerationRequest where
  projectName? : Option String
  payload : Payload
  deriving Repr, DecidableEq

/-- The project that a configured name stands for: the trimmed name, unless it is blank. -/
def namedProject? (configured : Option String) : Option String :=
  (configured.map Text.trimmed).filter (!·.isEmpty)

/-! ### Writing -/

/-- Names as a JSON array. -/
def namesJson (names : List PatternName) : Json.Value :=
  .array (names.map .string)

/-- The members that ask for a payload. -/
def Payload.members : Payload → List (String × Json.Value)
  | .single refinement patterns =>
    [("refinement", .number (.integer refinement.toNat)), ("patterns", namesJson patterns)]
  | .steps refinements => [("refinements", .array (refinements.map namesJson))]

/-- A payload as a JSON value of its own. -/
def Payload.toJson (payload : Payload) : Json.Value :=
  .object payload.members

namespace GenerationRequest

/-- A request as a JSON value; a project that is not named has no member. -/
def toJson (request : GenerationRequest) : Json.Value :=
  match request.projectName? with
  | some name => .object (("projectName", .string name) :: request.payload.members)
  | none => .object request.payload.members

/-- The text of a request. -/
def body (request : GenerationRequest) : String :=
  request.toJson.compactText

end GenerationRequest

/-! ### Reading -/

/-- The values of all members with a name. -/
def valuesOf (name : String) (members : List (String × Json.Value)) : List Json.Value :=
  (members.filter (·.1 == name)).map (·.2)

/-- The value of the only member with a name. -/
def onlyValue? (name : String) (members : List (String × Json.Value)) : Option Json.Value :=
  match valuesOf name members with
  | [value] => some value
  | _ => none

/-- The text of a JSON string. -/
def textOf? : Json.Value → Option String
  | .string text => some text
  | _ => none

/-- The names in a JSON array of strings. -/
def namesOf? : Json.Value → Option (List PatternName)
  | .array items => items.mapM textOf?
  | _ => none

/-- The lists of names in a JSON array of such arrays. -/
def nameListsOf? : Json.Value → Option (List (List PatternName))
  | .array items => items.mapM namesOf?
  | _ => none

/-- The number of a refinement, which 32 bits have to hold. -/
def refinementOf? : Json.Value → Option UInt32
  | .number (.integer n) =>
    if 0 ≤ n ∧ n < UInt32.size then some (UInt32.ofNat n.toNat) else none
  | _ => none

namespace Payload

/-- The numbered selection that members ask for. -/
def singleOf? (members : List (String × Json.Value)) : Option Payload :=
  match (onlyValue? "refinement" members).bind refinementOf?,
      (onlyValue? "patterns" members).bind namesOf? with
  | some refinement, some patterns => some (.single refinement patterns)
  | _, _ => none

/-- The sequence of selections that members ask for. -/
def stepsOf? (members : List (String × Json.Value)) : Option Payload :=
  ((onlyValue? "refinements" members).bind nameListsOf?).map .steps

/-- The payload that members ask for. -/
def ofMembers? (members : List (String × Json.Value)) : Option Payload :=
  (singleOf? members).orElse fun _ => stepsOf? members

end Payload

/-- The project that members name, if any: at most one member, a string or null. -/
def projectOf? (members : List (String × Json.Value)) : Option (Option String) :=
  match valuesOf "projectName" members with
  | [] => some none
  | [.null] => some none
  | [.string name] => some (some name)
  | _ => none

namespace GenerationRequest

/-- The request that a JSON value asks for. -/
def ofJson? : Json.Value → Option GenerationRequest
  | .object members =>
    match projectOf? members, Payload.ofMembers? members with
    | some projectName?, some payload => some { projectName?, payload }
    | _, _ => none
  | _ => none

/-- The request that a body asks for. -/
def ofBody? (bytes : ByteArray) : Option GenerationRequest :=
  (Json.readBytes? bytes).bind ofJson?

end GenerationRequest

end PatternRefinement
