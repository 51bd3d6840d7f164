import PatternRefinement.Service.Exchange
import PatternRefinement.Text.Base64

/-!
# Messages on the wire

A request and a reply as the bytes that go over a connection, which is used for the two of them
only.

## Main Definitions

* `WebRequest.wireText` — the text of a request
* `MessageHead` — the status and the headers of a reply
* `takeHead?`, `chunks` — where a head ends, and what a body in chunks holds
* `Reply.ofWire` — the reply that bytes are

## Design Notes

A body has the length that the head announces, is told in chunks, or ends with the connection. Bytes
without a head are no response at all. Blanks around the value of a header do not belong to it.
-/

namespace PatternRefinement

/-! ### Requests -/

/-- The word that a request begins with. -/
def WebMethod.word : WebMethod → String
  | .get => "GET"
  | .post => "POST"

/-- The host and the port of an address as a request names them. -/
def WebAddress.hostText (address : WebAddress) : String :=
  match address.authority? with
  | some authority => Authority.text { authority with user := "", password? := none }
  | none => ""

/-- How the service is told about a user. -/
def Credentials.headerValue (credentials : Credentials) : String :=
  let pair := credentials.user ++ ":" ++ credentials.password?.getD ""
  "Basic " ++ String.ofList (Text.Base64.encode pair.toUTF8.data.toList)

namespace WebRequest

/-- The headers of a request. -/
def headers (request : WebRequest) : List (String × String) :=
  [("host", request.address.hostText), ("accept", "*/*"), ("connection", "close")] ++
    (request.credentials?.toList.map fun credentials =>
      ("authorization", credentials.headerValue)) ++
    (request.referer?.toList.map fun referer => ("referer", referer)) ++
    (request.contentType?.toList.map fun contentType => ("content-type", contentType)) ++
    (match request.method with
      | .get => []
      | .post => [("content-length", Text.decimal request.body.utf8ByteSize)])

/-- The text of a request. -/
def wireText (request : WebRequest) : String :=
  request.method.word ++ " " ++ request.address.target ++ " HTTP/1.1\r\n" ++
    String.join (request.headers.map fun (name, value) => name ++ ": " ++ value ++ "\r\n") ++
    "\r\n" ++ request.body

end WebRequest

/-! ### Replies -/

/-- The status and the headers of a reply. -/
structure MessageHead where
  status : Nat
  headers : List (String × ByteArray)

/-- A line feed, and a carriage return, which may stand before it. -/
def lineFeed : UInt8 := 0x0A

@[inherit_doc lineFeed]
def carriageReturn : UInt8 := 0x0D

/-- The lines of a head and the bytes behind the empty line that ends it. -/
def takeLines? (line : List UInt8) : List UInt8 → Option (List (List UInt8) × List UInt8)
  | [] => none
  | byte :: rest =>
    if byte = lineFeed then
      let line := (if line.head? = some carriageReturn then line.drop 1 else line).reverse
      if line.isEmpty then some ([], rest)
      else (takeLines? [] rest).map fun (lines, rest) => (line :: lines, rest)
    else takeLines? (byte :: line) rest

/-- The text of bytes in ASCII. -/
def asciiText (bytes : List UInt8) : List Char := bytes.map fun byte => Char.ofNat byte.toNat

/-- The status in the first line of a head. -/
def readStatus? (line : List UInt8) : Option Nat :=
  match (asciiText line).splitOn ' ' with
  | version :: status :: _ =>
    if "HTTP/1.".toList.isPrefixOf version && status.length = 3 && Text.isDigits status then
      some (Text.digitsValue status)
    else none
  | _ => none

/-- The name and the value of a header. -/
def readHeader (line : List UInt8) : String × ByteArray :=
  let isPad (byte : UInt8) : Bool := byte = 0x20 || byte = 0x09
  let isNameByte (byte : UInt8) : Bool := byte != 0x3A
  let value := (line.dropWhile isNameByte).drop 1
  let value := ((value.dropWhile isPad).reverse.dropWhile isPad).reverse
  (String.ofList (asciiText (line.takeWhile isNameByte)), value.toByteArray)

/-- The head of a reply and the bytes behind it. -/
def takeHead? (bytes : List UInt8) : Option (MessageHead × List UInt8) :=
  match takeLines? [] bytes with
  | some (first :: lines, rest) =>
    (readStatus? first).map fun status => ({ status, headers := lines.map readHeader }, rest)
  | _ => none

/-- The size of a chunk, which the line before it tells in hexadecimal. -/
def chunkSize? (line : List UInt8) : Option Nat :=
  let digits := (asciiText line).takeWhile fun c => (Text.hexDigit? c).isSome
  if digits.isEmpty then none
  else some (digits.foldl (fun n c => 16 * n + (Text.hexDigit? c).getD 0) 0)

/-- The bytes of chunks, and whether there is a last one, which is empty. `done` is what the chunks
hold so far and `line` what the current line before a chunk does, each last byte first; `left` is
how many bytes of a chunk are left. -/
def chunks (done line : List UInt8) (left : Nat) : List UInt8 → List UInt8 × Bool
  | [] => (done.reverse, false)
  | byte :: rest =>
    if 0 < left then chunks (byte :: done) [] (left - 1) rest
    else if byte = lineFeed then
      match chunkSize? line.reverse with
      | none => chunks done [] 0 rest
      | some 0 => (done.reverse, true)
      | some size => chunks done [] size rest
    else chunks done (byte :: line) 0 rest

namespace MessageHead

/-- The first value of a header. -/
def value? (head : MessageHead) (name : String) : Option (List Char) :=
  (head.headers.find? fun header => Response.foldName header.1 == Response.foldName name).map
    fun header => asciiText header.2.data.toList

/-- The length of the body that a head announces. -/
def bodyLength? (head : MessageHead) : Option Nat :=
  (head.value? "content-length").bind fun digits =>
    if Text.isDigits digits then some (Text.digitsValue digits) else none

/-- Whether the body is told in chunks. -/
def isChunked (head : MessageHead) : Bool :=
  (head.value? "transfer-encoding").any fun value => value.map Char.toLower == "chunked".toList

/-- The body that follows a head, and whether it is complete. -/
def body (head : MessageHead) (bytes : List UInt8) : List UInt8 × Bool :=
  if head.status = 204 ∨ head.status = 304 then ([], true)
  else if head.isChunked then chunks [] [] 0 bytes
  else
    match head.bodyLength? with
    | some length => (bytes.take length, length ≤ bytes.length)
    | none => (bytes, true)

end MessageHead

/-- The reply that the bytes of a connection are. -/
def Reply.ofWire (bytes : ByteArray) : Reply :=
  match takeHead? bytes.data.toList with
  | none => .dropped
  | some (head, rest) =>
    let (body, complete) := head.body rest
    .answered { status := head.status, headers := head.headers, body := body.toByteArray } complete

end PatternRefinement
