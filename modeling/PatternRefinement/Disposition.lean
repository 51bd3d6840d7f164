import PatternRefinement.Text.Blank
import PatternRefinement.Text.Percent

/-!
# File names in a content disposition

A `Content-Disposition` header names the file that a response should be saved as. It has
three forms of doing so: `filename*=utf-8''` with percent escapes, `filename="` with a closing
quote, and `filename=` up to the next semicolon.

## Main Definitions

* `afterEach` — the texts that follow the occurrences of a marker
* `extendedName?`, `quotedName?`, `bareName?` — the name in each of the three forms
* `filename?` — the name that a header gives, the forms tried in this order

## Design Notes

A marker is found in any mixture of ASCII letter case and anywhere in the header, also inside
another value. The value of a form is the first one that is not empty, and it keeps the
letters that the header has. No marker overlaps itself, so looking for it again behind its
first character finds nothing that looking behind its last one would not find.
-/

namespace PatternRefinement.Disposition

open Text (trim)

/-- Announces a name with percent escapes. -/
def extendedMarker : List Char := "filename*=utf-8''".toList

/-- Announces a name in quotes. -/
def quotedMarker : List Char := "filename=\"".toList

/-- Announces a name that ends at the next semicolon. -/
def bareMarker : List Char := "filename=".toList

/-- What follows a lower-case marker at the start of a text, in any ASCII letter case. -/
def afterMarker? : (marker text : List Char) → Option (List Char)
  | [], text => some text
  | _ :: _, [] => none
  | m :: marker, c :: text => if c.toLower = m then afterMarker? marker text else none

/-- The texts that follow the occurrences of a lower-case marker, from left to right. -/
def afterEach (marker : List Char) : List Char → List (List Char)
  | [] => []
  | c :: text =>
    match afterMarker? marker (c :: text) with
    | some rest => rest :: afterEach marker text
    | none => afterEach marker text

/-- The part of a text before its first semicolon. -/
def untilSemicolon (text : List Char) : List Char :=
  text.takeWhile (· != ';')

/-- The part of a text before its first quote, if it has one. -/
def untilQuote? (text : List Char) : Option (List Char) :=
  if text.contains '"' then some (text.takeWhile (· != '"')) else none

/-- A value that is not empty. -/
def nonEmpty? (value : List Char) : Option (List Char) :=
  if value.isEmpty then none else some value

/-- The value with percent escapes that decides: the first one that is not empty. -/
def extendedValue? (header : List Char) : Option (List Char) :=
  (afterEach extendedMarker header).findSome? fun rest => nonEmpty? (untilSemicolon rest)

/-- The name in the form with percent escapes, if the deciding value denotes a text. -/
def extendedName? (header : List Char) : Option String :=
  (extendedValue? header).bind fun value => (Text.Percent.decode (String.ofList value)).toOption

/-- The name in the quoted form: the first closed value that is not empty, letter by letter. -/
def quotedName? (header : List Char) : Option String :=
  ((afterEach quotedMarker header).findSome? fun rest =>
    (untilQuote? rest).bind nonEmpty?).map String.ofList

/-- The name in the bare form: the first value that is not empty, unless it is blank. -/
def bareName? (header : List Char) : Option String :=
  (((afterEach bareMarker header).findSome? fun rest => nonEmpty? (untilSemicolon rest)).bind
    fun value => nonEmpty? (trim value)).map String.ofList

/-- The file name that a header gives. -/
def filename? (header : String) : Option String :=
  let text := header.toList
  (extendedName? text).orElse fun _ => (quotedName? text).orElse fun _ => bareName? text

/-- The name of an archive whose response and project have none. -/
def defaultArchiveName : String := "eventb-artifacts.zip"

/-- The name for an archive: the one in the header, else the name of the project with the
ending `.zip`, else a fixed one. -/
def archiveName (header : Option String) (project : String) : String :=
  match header.bind filename? with
  | some name => name
  | none => if project.isEmpty then defaultArchiveName else project ++ ".zip"

end PatternRefinement.Disposition
