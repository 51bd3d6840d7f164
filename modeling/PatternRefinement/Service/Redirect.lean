import PatternRefinement.Service.Exchange
import PatternRefinement.WebAddress.Joining

/-!
# Redirects

A response can send its client elsewhere.  The client goes there by itself, and what it hands back
in the end is the reply that it finds where it is sent no further.

## Main Definitions

* `Response.redirects` — whether a status sends a client elsewhere
* `WebRequest.next?` — the request that a response leads to
* `send` — puts a request to the network, and the ones that it leads to

## Design Notes

A client goes on at most ten times for one request.  Two of the statuses have the request made
again as it is, whatever it hands over; the others turn it into a question.  A user that was told to
a server is told to no other one.

A response is handed back if it does not say where to go, or names a place of the web that no
request can go to.  One that leads off the web is a failure.
-/

namespace PatternRefinement

/-- Whether the status of a response sends a client elsewhere. -/
def Response.redirects (response : Response) : Bool :=
  [301, 302, 303, 307, 308].contains response.status

/-- Whether a client that is sent elsewhere makes the same request there. -/
def Response.repeatsRequest (response : Response) : Bool :=
  [307, 308].contains response.status

/-- Where a response says that its client is to go, seen from the address of the request, unless it
is a place of the web that no request can go to. -/
def Response.location? (response : Response) (address : WebAddress) : Option WebAddress :=
  match response.headers.find? fun header => foldName header.1 == foldName "location" with
  | none => none
  | some header =>
    match (String.fromUTF8? header.2).map address.join with
    | some (.ok target) => if target.isWeb && !target.isSendable then none else some target
    | _ => none

namespace WebAddress

/-- The port that requests to an address go to. -/
def port? (address : WebAddress) : Option Nat :=
  (address.authority?.bind Authority.port?).orElse fun _ => defaultPort? address.scheme

/-- Whether requests to two addresses go to the same server. -/
def sharesServer (address other : WebAddress) : Bool :=
  address.authority?.map (·.host) == other.authority?.map (·.host) && address.port? == other.port?

end WebAddress

namespace WebRequest

/-- The address of a request as the next one names it, unless that would tell an address of a
protected connection to one that is not. -/
def refererFor? (request : WebRequest) (target : WebAddress) : Option String :=
  let address := request.address
  if target.scheme = "http" ∧ address.scheme = "https" then request.referer?
  else
    let authority? : Option Authority :=
      address.authority?.map fun authority => { authority with user := "", password? := none }
    some { address with authority?, fragment? := none }.text

/-- The same request at another address. -/
def movedTo (request : WebRequest) (target : WebAddress) : WebRequest :=
  { request with
    address := target
    credentials? := if request.address.sharesServer target then request.credentials? else none
    referer? := request.refererFor? target }

/-- The question that takes the place of a request. -/
def asked (request : WebRequest) : WebRequest :=
  { request with method := .get, contentType? := none, body := "" }

/-- The request that a response leads to, unless it is to be handed back. -/
def next? (request : WebRequest) (response : Response) : Option WebRequest :=
  if response.redirects then
    (response.location? request.address).map fun target =>
      if response.repeatsRequest then request.movedTo target else (request.movedTo target).asked
  else none

end WebRequest

/-- How often a client goes on by itself. -/
def maxRedirects : Nat := 10

/-- Puts a request to the network, and then, at most `left` times, the one that the response leads
to: the exchanges afterwards, and the response that is handed back. -/
def sendWithin (network : Network) (left : Nat) (past : List Exchange) (request : WebRequest) :
    List Exchange × Except TransportFailure Delivered :=
  match exchange network past request with
  | (past, .error e) => (past, .error e)
  | (past, .ok delivered) =>
    match request.next? delivered.response, left with
    | none, _ => (past, .ok delivered)
    | some _, 0 => (past, .error (.redirectedTooOften request.address))
    | some next, left + 1 => sendWithin network left past next

/-- Puts a request to the network as a client does: the exchanges afterwards, and the response that
is handed back. -/
def send (network : Network) (past : List Exchange) (request : WebRequest) :
    List Exchange × Except TransportFailure Delivered :=
  sendWithin network maxRedirects past request

end PatternRefinement
