import PatternRefinement.Archive
import PatternRefinement.Request
import PatternRefinement.Text.Percent

/-!
# Requests and replies

What is put to the network, and what comes back.

## Main Definitions

* `WebRequest` — a request, with the address it goes to
* `Reply` — what comes back for a request
* `Exchange` — a request with its reply
* `Network` — how requests are replied to
* `TransportFailure` — why there is no whole reply, with its wording
* `exchange` — puts one request to the network, once

## Design Notes

A network is a function of the requests that were made before, so a run of the program is
determined by it. A user that is named in an address is told to the service in another way, and
the address is used and shown without the user.
-/

namespace PatternRefinement

/-- Whether something is asked for or handed over. -/
inductive WebMethod where
  | get
  | post
  deriving Repr, DecidableEq

/-- A user with a password. -/
structure Credentials where
  user : String
  password? : Option String
  deriving Repr, DecidableEq

/-- A request over the web protocol. -/
structure WebRequest where
  method : WebMethod
  address : WebAddress
  credentials? : Option Credentials
  /-- The address of the request that led to this one. -/
  referer? : Option String := none
  contentType? : Option String
  body : String
  deriving Repr, DecidableEq

/-! ### Users in addresses -/

/-- The text that a part of an address denotes. -/
def denoted? (part : String) : Option String :=
  String.fromUTF8? (Text.Percent.unescape part.toUTF8.data.toList).toByteArray

/-- The user that an authority names. A name that denotes no text names nobody. -/
def Authority.credentials? (authority : Authority) : Option Credentials :=
  match denoted? authority.user with
  | none => none
  | some user =>
    let password? := authority.password?.bind denoted?
    if user.isEmpty && password?.isNone then none else some { user, password? }

namespace WebAddress

/-- The user that an address names. -/
def credentials? (address : WebAddress) : Option Credentials :=
  address.authority?.bind Authority.credentials?

/-- The address without the user that it names. -/
def withoutUser (address : WebAddress) : WebAddress :=
  match address.authority? with
  | some authority =>
    if authority.credentials?.isSome then
      { address with authority? := some { authority with user := "", password? := none } }
    else address
  | none => address

/-- The number of bytes that the text of an address may have in a request. -/
def maxBytes : Nat := 65534

/-- Whether a host can be named in a request: four characters may stand in a name but not
there. -/
def isNameable (host : Host) : Bool :=
  host.text.toList.all fun c => !"\"\x60\x7b\x7d".toList.contains c

/-- Whether requests can go to an address. -/
def isSendable (address : WebAddress) : Bool :=
  address.isWeb && address.text.utf8ByteSize ≤ maxBytes &&
    address.authority?.all fun authority => isNameable authority.host

/-- What a request asks for at its host: the path and the query of its address. -/
def target (address : WebAddress) : String :=
  address.path.render ++ markedPart "?" address.query?

end WebAddress

namespace WebRequest

/-- Asks for what stands at an address. -/
def get (address : WebAddress) : WebRequest :=
  { method := .get, address := address.withoutUser, credentials? := address.credentials?,
    contentType? := none, body := "" }

/-- Hands over a JSON text. -/
def post (address : WebAddress) (body : String) : WebRequest :=
  { method := .post, address := address.withoutUser, credentials? := address.credentials?,
    contentType? := some "application/json", body }

end WebRequest

/-! ### Replies -/

/-- What comes back for a request. -/
inductive Reply where
  /-- There is no connection, so the request does not arrive. -/
  | unreachable
  /-- The connection ends without a response. -/
  | dropped
  /-- There is a response; its body may end before the length that was announced. -/
  | answered (response : Response) (complete : Bool)

/-- A request with its reply. -/
structure Exchange where
  request : WebRequest
  reply : Reply

/-- Whether the request of an exchange arrived. -/
def Exchange.arrived (exchange : Exchange) : Bool :=
  match exchange.reply with
  | .unreachable => false
  | _ => true

/-- How requests are replied to, given the exchanges so far. -/
abbrev Network := List Exchange → WebRequest → Reply

/-- Why there is no whole reply. -/
inductive TransportFailure where
  /-- No request can go to the address. -/
  | unsendable (address : WebAddress)
  /-- No response came back. -/
  | unanswered (address : WebAddress)
  /-- The last of too many responses that lead elsewhere came from the address. -/
  | redirectedTooOften (address : WebAddress)
  /-- The body of the response is cut short. -/
  | cutShort
  deriving Repr, DecidableEq

/-- What is told about a reply that is not whole. -/
def TransportFailure.message : TransportFailure → String
  | .unsendable address => "builder error for url (" ++ address.text ++ ")"
  | .unanswered address => "error sending request for url (" ++ address.text ++ ")"
  | .redirectedTooOften address => "error following redirect for url (" ++ address.text ++ ")"
  | .cutShort => "error decoding response body"

/-- A response, with whether its body is complete. -/
structure Delivered where
  response : Response
  complete : Bool

/-- What a reply to a request at an address comes to. -/
def Reply.delivered (address : WebAddress) : Reply → Except TransportFailure Delivered
  | .answered response complete => .ok { response, complete }
  | _ => .error (.unanswered address)

/-- Puts a request to the network, once: the exchanges afterwards, and the response. -/
def exchange (network : Network) (past : List Exchange) (request : WebRequest) :
    List Exchange × Except TransportFailure Delivered :=
  if request.address.isSendable then
    let reply := network past request
    (past ++ [⟨request, reply⟩], reply.delivered request.address)
  else (past, .error (.unsendable request.address))

end PatternRefinement
