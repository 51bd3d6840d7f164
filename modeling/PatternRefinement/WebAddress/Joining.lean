import PatternRefinement.WebAddress.Reader

/-!
# Joining addresses

A text that stands at an address of the web may leave out what it has in common with it.

## Main Definitions

* `WebAddress.join` — the address that a text at an address leads to

## Design Notes

A text is cut into its parts as if it were an address of its own.  What comes first in it decides
how much is taken over: behind two slashes the scheme alone, behind one slash the authority as well,
and otherwise all segments but the last one.  A text without a path keeps the whole path, and the
query too unless it has one.
-/

namespace PatternRefinement

namespace WebAddress

/-- The address of the same authority with other segments, and the query and fragment of parts. -/
def withSegments (base : WebAddress) (parts : AddressParts) (segments : List String) : WebAddress :=
  withParts parts base.scheme base.authority? (.segments segments)

/-- The segments of an address; mere text has none. -/
def segments (address : WebAddress) : List String :=
  match address.path with
  | .segments all => all
  | .text _ => []

/-- What a text without a scheme leads to from an address. -/
def joinRelative (base : WebAddress) (text : List Char) : Except AddressError WebAddress :=
  let parts := AddressParts.ofText text
  match parts.main with
  | [] =>
    let kept := base.withSegments parts base.segments
    .ok (if parts.query?.isSome then kept else { kept with query? := base.query? })
  | '/' :: '/' :: rest => readAuthority base.scheme { parts with main := rest }
  | first :: rest =>
    if !isSlash true first then
      -- The last segment makes room, and the ones before it are walked on from.
      let before := base.segments.dropLast.reverse
      .ok (base.withSegments parts (normalSegments before (parts.main.splitOnP (isSlash true))))
    else if rest.head?.any (isSlash true) then
      readAuthority base.scheme { parts with main := rest.dropWhile (isSlash true) }
    else .ok (base.withSegments parts (readSegments true rest))

/-- The address that a text leads to from an address of the web. -/
def join (base : WebAddress) (text : String) : Except AddressError WebAddress :=
  let text' := cleaned text.toList
  match cutScheme? text' with
  | none => base.joinRelative text'
  | some (scheme, behind) =>
    -- The scheme of the address itself may stand before a text that is relative.
    if scheme = base.scheme ∧ (behind.takeWhile (isSlash true)).length < 2 then
      base.joinRelative behind
    else read text

end WebAddress

end PatternRefinement
