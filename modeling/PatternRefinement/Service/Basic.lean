import PatternRefinement.Service.Redirect

/-!
# The service

The service lists its patterns and generates archives, each at an address of its own.

## Main Definitions

* `Service` — a service, known by the address it is found at
* `Service.ofUrl` — the service that a user names
* `Service.list` — asks for the patterns
* `Service.generate` — asks for an archive

## Design Notes

What a user names may lack the slash at its end; it is added, so that the places of the service
stand below all of what was named. A service is asked through a client that goes where a response
sends it, so what is read is the response at the end of that way. A listing has to be whole, and an
array of names; what else it may be is not told apart. A response to a generation request is handed
on as it is.
-/

namespace PatternRefinement

/-- A service, known by the address it is found at. -/
structure Service where
  base : WebAddress
  deriving Repr, DecidableEq

/-- A text with a slash at its end. -/
def withFinalSlash (text : String) : String :=
  if text.toList.getLast? = some '/' then text else text ++ "/"

/-- What the user is told about a listing that is none. -/
def unexpectedListing : String := "Unexpected response while loading patterns."

namespace Service

/-- The service that a user names. -/
def ofUrl (url : String) : Except Failure Service :=
  match WebAddress.read (withFinalSlash (Text.trimmed url)) with
  | .ok base => .ok ⟨base⟩
  | .error e => .error (.invalidServerUrl url e)

/-- The address of a place of the service. -/
def place (service : Service) (name : String) : Except Failure WebAddress :=
  match service.base.resolve ["api", name] with
  | .ok address => .ok address
  | .error e => .error (.invalidServerUrl service.base.text e)

/-- The names in a response to the question for the patterns. -/
def readListing (delivered : Delivered) : Except Failure (List PatternName) :=
  let response := delivered.response
  if !response.isSuccess then .error (.catalogLoad ("HTTP " ++ Text.decimal response.status))
  else
    match (Json.readBytes? response.body).bind namesOf? with
    | some names =>
      if delivered.complete then .ok names else .error (.catalogLoad unexpectedListing)
    | none => .error (.catalogLoad unexpectedListing)

/-- Asks the service for its patterns. -/
def list (service : Service) (network : Network) (past : List Exchange) :
    List Exchange × Except Failure (List PatternName) :=
  match service.place "patterns" with
  | .error failure => (past, .error (.catalogLoad failure.message))
  | .ok address =>
    match send network past (.get address) with
    | (past, .error e) => (past, .error (.catalogLoad e.message))
    | (past, .ok delivered) => (past, readListing delivered)

/-- The response to a generation request, which has to be whole. -/
def readGenerated (delivered : Delivered) : Except Failure Response :=
  if delivered.complete then .ok delivered.response
  else .error (.generationFailed TransportFailure.cutShort.message)

/-- Asks the service for an archive. -/
def generate (service : Service) (network : Network) (past : List Exchange)
    (request : GenerationRequest) : List Exchange × Except Failure Response :=
  match service.place "generate" with
  | .error failure => (past, .error failure)
  | .ok address =>
    match send network past (.post address request.body) with
    | (past, .error e) => (past, .error (.generationFailed e.message))
    | (past, .ok delivered) => (past, readGenerated delivered)

end Service

end PatternRefinement
