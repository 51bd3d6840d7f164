import PatternRefinement.WebAddress.Host
import PatternRefinement.Text.Reader

/-!
# Reading web addresses

## Main Definitions

* `AddressParts` — what stands before the query, the query and the fragment
* `Authority.read` — user, host and port of a scheme that has them
* `normalSegments` — segments with those that mean "here" and "one up" carried out
* `WebAddress.read` — the address that a text is

## Design Notes

A text is cut before anything in it is read: the fragment begins at the first number sign, the
query at the first question mark before it, and an authority ends at the first slash. So each
part is read on its own. Tabs and line ends count nowhere, and neither do control characters
and blanks at the ends.
-/

namespace PatternRefinement

/-! ### Cutting -/

/-- What stands before the query, the query, and the fragment. -/
structure AddressParts where
  main : List Char
  query? : Option (List Char)
  fragment? : Option (List Char)
  deriving Repr, DecidableEq

/-- Cuts off the fragment and then the query. -/
def AddressParts.ofText (text : List Char) : AddressParts :=
  let (before, fragment?) := Text.cutAt '#' text
  let (main, query?) := Text.cutAt '?' before
  { main, query?, fragment? }

/-- Whether nothing is left in any part. -/
def AddressParts.isEmpty (parts : AddressParts) : Bool :=
  parts.main.isEmpty && parts.query?.isNone && parts.fragment?.isNone

/-- A text without the control characters and blanks at its ends, and without tabs and line
ends. -/
def cleaned (text : List Char) : List Char :=
  let isEdge (c : Char) : Bool := c.toNat ≤ 0x20
  let inner := ((text.dropWhile isEdge).reverse.dropWhile isEdge).reverse
  inner.filter fun c => c != '\t' && c != '\n' && c != '\r'

/-- Whether a character may stand in a scheme behind its first letter. -/
def isSchemeCharacter (c : Char) : Bool :=
  c.isAlphanum || c == '+' || c == '-' || c == '.'

/-- The scheme that a text begins with, in lower case, and what stands behind its colon. -/
def cutScheme? (text : List Char) : Option (String × List Char) :=
  let scheme := text.takeWhile isSchemeCharacter
  match scheme.head?, text.dropWhile isSchemeCharacter with
  | some first, ':' :: behind =>
    if first.isAlpha then some (String.ofList (scheme.map Char.toLower), behind) else none
  | _, _ => none

/-! ### Places of an address -/

/-- Whether a character stands for itself in text that is escaped as little as possible. -/
def isPrintable (c : Char) : Bool :=
  0x20 ≤ c.toNat && c.toNat < 0x7F

/-- Whether a character stands for itself in a fragment. -/
def isFragmentCharacter (c : Char) : Bool :=
  isPrintable c && !" \"<>\x60".toList.contains c

/-- Whether a character stands for itself in a path. -/
def isPathCharacter (c : Char) : Bool :=
  isFragmentCharacter c && !"#?\x7b\x7d".toList.contains c

/-- Whether a character stands for itself in the name or password of a user. -/
def isUserCharacter (c : Char) : Bool :=
  isPathCharacter c && !"/:;=@[\\]^|".toList.contains c

/-- Whether a character stands for itself in a query; host schemes escape an apostrophe. -/
def isQueryCharacter (hostScheme : Bool) (c : Char) : Bool :=
  isPrintable c && !" \"#<>".toList.contains c && !(hostScheme && c == '\x27')

/-- Text with what a place does not admit escaped. -/
def placed (admits : Char → Bool) (text : List Char) : String :=
  String.ofList (Text.Percent.encode admits text)

/-- Whether a character separates segments; with host schemes and files a backslash does. -/
def isSlash (backslash : Bool) (c : Char) : Bool :=
  c == '/' || (backslash && c == '\\')

/-! ### Segments -/

/-- Whether a segment means "here". -/
def isHere (segment : List Char) : Bool :=
  let lower := segment.map Char.toLower
  lower == ['.'] || lower == "%2e".toList

/-- Whether a segment means "one up". -/
def isUp (segment : List Char) : Bool :=
  let lower := segment.map Char.toLower
  lower == "..".toList || lower == "%2e.".toList || lower == ".%2e".toList
    || lower == "%2e%2e".toList

/-- The segments without the last one; a drive is not left. `done` holds the segments with the last
one first. -/
def oneUp (done : List String) : List String :=
  match done with
  | last :: before => if isDrive last.toList then last :: before else before
  | [] => []

/-- The segments that result when those that mean "here" and "one up" are carried out; `done`
holds the ones so far, the last one first. -/
def normalSegments (done : List String) : List (List Char) → List String
  | [] => done.reverse
  | [last] =>
    if isUp last then ("" :: oneUp done).reverse
    else if isHere last then ("" :: done).reverse
    else (placed isPathCharacter last :: done).reverse
  | segment :: rest =>
    if isUp segment then normalSegments (oneUp done) rest
    else if isHere segment then normalSegments done rest
    else normalSegments (placed isPathCharacter segment :: done) rest

/-- The segments of a path, from behind its first slash. -/
def readSegments (backslash : Bool) (text : List Char) : List String :=
  normalSegments [] (text.splitOnP (isSlash backslash))

/-- A path without its first slash. -/
def withoutSlash (backslash : Bool) : List Char → List Char
  | c :: rest => if isSlash backslash c then rest else c :: rest
  | [] => []

/-! ### Authorities -/

/-- The user part before the last at sign, if there is one, and what stands behind it. -/
def cutUser (text : List Char) : Option (List Char) × List Char :=
  match Text.cutAt '@' text.reverse with
  | (_, none) => (none, text)
  | (behind, some before) => (some before.reverse, behind.reverse)

/-- The host that a text begins with, and what stands behind it: a colon outside of brackets
ends it. -/
def cutHost (inBrackets : Bool) : List Char → List Char × List Char
  | [] => ([], [])
  | c :: rest =>
    if c = ':' ∧ inBrackets = false then ([], c :: rest)
    else
      let (host, behind) := cutHost (c == '[' || (inBrackets && c != ']')) rest
      (c :: host, behind)

/-- The port behind a colon, and what stands behind its digits; without digits there is none, and
the usual one is not kept. -/
def readPort (scheme : String) (text : List Char) :
    Except AddressError (Option Nat × List Char) :=
  let digits := text.takeWhile Char.isDigit
  let behind := text.dropWhile Char.isDigit
  let port := Text.digitsValue digits
  if 65535 < port then .error .port
  else if behind.head?.any (· != '\\') then .error .port
  else if digits.isEmpty || defaultPort? scheme = some port then .ok (none, behind)
  else .ok (some port, behind)

namespace Authority

/-- User, host and port from the text between the two slashes and the path, and what stands behind
them: a backslash behind a port ends an authority as well. `atEnd` says that nothing stands behind
the text. -/
def read (scheme : String) (atEnd : Bool) (text : List Char) :
    Except AddressError (Authority × List Char) :=
  let hostScheme := isHostScheme scheme
  let (userPart?, rest) := cutUser text
  let (userName, password?) := Text.cutAt ':' (userPart?.getD [])
  let password? := password?.filter (!·.isEmpty)
  let (hostText, behind) := cutHost false rest
  let hasUser := !userName.isEmpty || password?.isSome
  -- An at sign with nothing around it is a host left out, unless the whole text ends there:
  -- then it depends on the scheme whether there has to be one.
  if userPart? = some [] && rest.isEmpty && !atEnd then .error .emptyHost
  else if hostText.isEmpty && (hostScheme || hasUser || !behind.isEmpty) then .error .emptyHost
  else
    match (if hostScheme then Host.read hostText else Host.readPlain hostText) with
    | .error e => .error e
    | .ok host =>
      -- What stands behind a host begins with the colon that ended it.
      match readPort scheme (behind.drop 1) with
      | .error e => .error e
      | .ok (port?, behind) =>
        .ok ({ user := placed isUserCharacter userName,
               password? := password?.map (placed isUserCharacter), host, port? }, behind)

end Authority

/-! ### Addresses -/

namespace WebAddress

/-- The address with the query and fragment of its parts. -/
def withParts (parts : AddressParts) (scheme : String) (authority? : Option Authority)
    (path : AddressPath) : WebAddress :=
  { scheme, authority?, path,
    query? :=
      parts.query?.map (placed (isQueryCharacter (isHostScheme scheme || scheme == "file"))),
    fragment? := parts.fragment?.map (placed isFragmentCharacter) }

/-- Reads an address with an authority, from behind the slashes. -/
def readAuthority (scheme : String) (parts : AddressParts) : Except AddressError WebAddress :=
  let backslash := isHostScheme scheme
  let authorityText := parts.main.takeWhile (!isSlash backslash ·)
  let pathText := parts.main.dropWhile (!isSlash backslash ·)
  match Authority.read scheme ({ parts with main := pathText }).isEmpty authorityText with
  | .error e => .error e
  | .ok (authority, behind) =>
    let pathText := behind ++ pathText
    let segments :=
      if pathText.isEmpty && !backslash then []
      else readSegments backslash (withoutSlash backslash pathText)
    .ok (withParts parts scheme (some authority) (.segments segments))

/-- The segments of a file path, a drive at its start written with a colon. -/
def withDriveColon : List String → List String
  | first :: rest =>
    (if isDrive first.toList then String.ofList (first.toList.take 1 ++ [':']) else first) :: rest
  | [] => []

/-- The segments of a file path: no empty segment comes first unless it is the only one. -/
def withoutEmptyStart (segments : List String) : List String :=
  match segments.dropWhile (·.isEmpty) with
  | [] => [""]
  | rest => rest

/-- The address of a file at a host. A path that starts with a drive has no host. -/
def fileAddress (parts : AddressParts) (host : Host) (pathText : List Char) : WebAddress :=
  let segments := readSegments true (withoutSlash true pathText)
  let startsWithDrive := segments.head?.any (isDrive ·.toList)
  let host := if startsWithDrive || host = .name "localhost" then .name "" else host
  withParts parts "file" (some ⟨"", none, host, none⟩)
    (.segments (withoutEmptyStart (withDriveColon segments)))

/-- Reads the address of a file, from behind the colon of its scheme. -/
def readFile (parts : AddressParts) : Except AddressError WebAddress :=
  match parts.main with
  | a :: b :: rest =>
    if isSlash true a && isSlash true b then
      let hostText := rest.takeWhile (!isSlash true ·)
      let pathText := rest.dropWhile (!isSlash true ·)
      if hostText.isEmpty then .ok (fileAddress parts (.name "") pathText)
      else if isDrive hostText then .ok (fileAddress parts (.name "") rest)
      else
        match Host.read hostText with
        | .error e => .error e
        | .ok host => .ok (fileAddress parts host pathText)
    else .ok (fileAddress parts (.name "") parts.main)
  | main => .ok (fileAddress parts (.name "") main)

/-- Reads the address that a text is. -/
def read (text : String) : Except AddressError WebAddress :=
  match cutScheme? (cleaned text.toList) with
  | none => .error .relativeWithoutBase
  | some (scheme, behind) =>
    let parts := AddressParts.ofText behind
    if scheme = "file" then readFile parts
    else if isHostScheme scheme then
      readAuthority scheme { parts with main := parts.main.dropWhile (isSlash true) }
    else
      match parts.main with
      | '/' :: '/' :: rest => readAuthority scheme { parts with main := rest }
      | '/' :: rest => .ok (withParts parts scheme none (.segments (readSegments false rest)))
      | main => .ok (withParts parts scheme none (.text (placed isPrintable main)))

end WebAddress

end PatternRefinement
