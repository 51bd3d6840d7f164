import PatternRefinement.Text.Digits

/-!
# Web addresses

The parts of an absolute address, and its text.

## Main Definitions

* `AddressError` — why a text is no address, with its wording
* `Host` — a name or a numeric address
* `Authority` — who is asked: a host with a port, and a user
* `WebAddress` — scheme, authority, path, query and fragment
* `WebAddress.text` — an address written out
* `WebAddress.resolve` — what a relative path leads to from an address

## Design Notes

The parts of an address are kept as they are written, escapes included, so writing an address
is putting its parts together. A port that is the usual one of the scheme is not kept. A path
of segments begins with a slash; an address such as `mailto:x@y` has a path that is mere text,
and no relative path leads anywhere from it.
-/

namespace PatternRefinement

/-- Why a text is no address, or why a relative path leads nowhere. -/
inductive AddressError where
  | emptyHost
  | internationalName
  | domainCharacter
  | port
  | ipv4
  | ipv6
  /-- The text has no scheme. -/
  | relativeWithoutBase
  /-- The path of the address is mere text. -/
  | relativeToText
  deriving Repr, DecidableEq

/-- The wording of an address error. -/
def AddressError.message : AddressError → String
  | .emptyHost => "empty host"
  | .internationalName => "invalid international domain name"
  | .domainCharacter => "invalid domain character"
  | .port => "invalid port number"
  | .ipv4 => "invalid IPv4 address"
  | .ipv6 => "invalid IPv6 address"
  | .relativeWithoutBase => "relative URL without a base"
  | .relativeToText => "relative URL with a cannot-be-a-base base"

/-- Who an address leads to: a name, or a number of 32 bits, or eight numbers of 16 bits. -/
inductive Host where
  | name (text : String)
  | ipv4 (number : Nat)
  | ipv6 (pieces : List Nat)
  deriving Repr, DecidableEq

/-- Who is asked, and as which user. -/
structure Authority where
  user : String
  password? : Option String
  host : Host
  port? : Option Nat
  deriving Repr, DecidableEq

/-- The path of an address. -/
inductive AddressPath where
  /-- Segments, each with a slash before it. -/
  | segments (all : List String)
  /-- Mere text. -/
  | text (all : String)
  deriving Repr, DecidableEq

/-- An absolute address. -/
structure WebAddress where
  scheme : String
  authority? : Option Authority
  path : AddressPath
  query? : Option String
  fragment? : Option String
  deriving Repr, DecidableEq

/-! ### Schemes and drives -/

/-- The port that a scheme uses unless an address names one. -/
def defaultPort? (scheme : String) : Option Nat :=
  if scheme = "http" ∨ scheme = "ws" then some 80
  else if scheme = "https" ∨ scheme = "wss" then some 443
  else if scheme = "ftp" then some 21
  else none

/-- Whether a scheme always has a host and treats a backslash as a slash. -/
def isHostScheme (scheme : String) : Bool :=
  (defaultPort? scheme).isSome

/-- Whether a segment names a drive: a letter and a colon or bar. -/
def isDrive (segment : List Char) : Bool :=
  match segment with
  | [letter, mark] => letter.isAlpha && (mark == ':' || mark == '|')
  | _ => false

/-! ### Hosts as text -/

/-- The four bytes of a number of 32 bits. -/
def ipv4Text (number : Nat) : String :=
  ".".intercalate ([24, 16, 8, 0].map fun shift => Text.decimal (number / Nat.pow 2 shift % 256))

/-- The number of zeros that a list begins with. -/
def leadingZeros (pieces : List Nat) : Nat :=
  (pieces.takeWhile (· == 0)).length

/-- Where the first of the longest runs of zeros starts, and its length. -/
def longestZeros (pieces : List Nat) : Nat × Nat :=
  (List.range pieces.length).foldl (fun best start =>
    let run := leadingZeros (pieces.drop start)
    if best.2 < run then (start, run) else best) (0, 0)

/-- Numbers in hexadecimal with colons between them. -/
def hexPieces (pieces : List Nat) : String :=
  ":".intercalate (pieces.map fun piece => String.ofList (Nat.toDigits 16 piece))

/-- Eight numbers of 16 bits, the first of the longest runs of two zeros or more left out. -/
def ipv6Text (pieces : List Nat) : String :=
  let (start, run) := longestZeros pieces
  if run < 2 then hexPieces pieces
  else hexPieces (pieces.take start) ++ "::" ++ hexPieces (pieces.drop (start + run))

/-- The text of a host. -/
def Host.text : Host → String
  | .name text => text
  | .ipv4 number => ipv4Text number
  | .ipv6 pieces => "[" ++ ipv6Text pieces ++ "]"

/-! ### Addresses as text -/

/-- The user and the password, with the sign that separates them from the host. -/
def Authority.userText (authority : Authority) : String :=
  match authority.user, authority.password? with
  | "", none => ""
  | user, none => user ++ "@"
  | user, some password => user ++ ":" ++ password ++ "@"

/-- The text of an authority. -/
def Authority.text (authority : Authority) : String :=
  authority.userText ++ authority.host.text ++
    (match authority.port? with
      | some port => ":" ++ Text.decimal port
      | none => "")

/-- The text of a path. -/
def AddressPath.render : AddressPath → String
  | .segments all => String.join (all.map ("/" ++ ·))
  | .text all => all

/-- An optional part with the mark before it. -/
def markedPart (mark : String) : Option String → String
  | some part => mark ++ part
  | none => ""

namespace WebAddress

/-- What stands between the scheme and the path: two slashes and the authority, or the mark
that keeps a path which begins with an empty segment from being taken for one. -/
def authorityText (address : WebAddress) : String :=
  match address.authority?, address.path with
  | some authority, _ => "//" ++ authority.text
  | none, .segments ("" :: _ :: _) => "/."
  | none, _ => ""

/-- The text of an address. -/
def text (address : WebAddress) : String :=
  address.scheme ++ ":" ++ address.authorityText ++ address.path.render ++
    markedPart "?" address.query? ++ markedPart "#" address.fragment?

/-- Whether a program can ask for what stands at the address over the web protocol. -/
def isWeb (address : WebAddress) : Bool :=
  address.scheme == "http" || address.scheme == "https"

/-- What a relative path leads to: its segments take the place of the last segment, and query
and fragment are dropped. A drive that a file path ends with stays, and the relative path is
written right behind it. -/
def resolve (base : WebAddress) (relative : List String) : Except AddressError WebAddress :=
  match base.path with
  | .text _ => .error .relativeToText
  | .segments all =>
    let last := all.getLast?.getD ""
    let segments :=
      match relative with
      | first :: rest =>
        -- Only the written-out form with a colon counts as a drive here.
        if base.scheme = "file" ∧ isDrive last.toList ∧ last.toList.getLast? = some ':' then
          (last ++ first) :: rest
        else first :: rest
      | [] => []
    .ok { base with
      path := .segments (all.dropLast ++ segments), query? := none, fragment? := none }

end WebAddress

end PatternRefinement
