import PatternRefinement.Proofs.Disposition.Positions

/-!
# A name between quotes

## Main Definitions

* `quotedHeader` — the header that names a file in quotes and has no other parameter

## Main Statements

* `filename?_quotedHeader` — the name that such a header gives
* `GivesExtended.ne_of_quoted` — a name with escapes is not all of what stands between the quotes
* `archiveName_of_quoted` — when what stands between the quotes is the name of an archive

## Design Notes

The markers are looked for in the whole header, and the form with escapes goes before the quoted
one.  So what stands between the quotes is the name, letter by letter, unless a name with escapes
is given there, and then the closing quote belongs to it.  Nothing between the quotes leaves the
quoted form without a value; the bare form has one then, which is the two quotes.
-/

namespace PatternRefinement.Disposition

open Text.Percent (Denotes)

/-- The header that names a file in quotes and has no other parameter. -/
def quotedHeader (name : String) : String :=
  "attachment; filename=\"" ++ name ++ "\""

variable {name : String}

-- A literal text is not opened by rewriting, so this is about any three texts.
theorem toList_append_append (first second third : String) : (first ++ second ++ third).toList =
    first.toList ++ (second.toList ++ third.toList) := by
  rw [String.toList_append, String.toList_append, List.append_assoc]

theorem toList_quotedHeader (name : String) : (quotedHeader name).toList =
    "attachment; filename=\"".toList ++ (name.toList ++ ['"']) :=
  toList_append_append _ name _

/-! ## The three forms -/

/-- In front of the opening quote no name with escapes is announced. -/
theorem afterEach_extendedMarker (inside : List Char) :
    afterEach extendedMarker ("attachment; filename=\"".toList ++ inside) =
      afterEach extendedMarker inside := rfl

/-- The opening quote announces what stands behind it. -/
theorem afterEach_quotedMarker (inside : List Char) :
    afterEach quotedMarker ("attachment; filename=\"".toList ++ inside) =
      inside :: afterEach quotedMarker inside := rfl

theorem extendedName?_quotedHeader (name : String) : extendedName? (quotedHeader name).toList =
    extendedName? (name.toList ++ ['"']) := by
  rw [toList_quotedHeader, extendedName?, extendedValue?, afterEach_extendedMarker]
  rfl

/-- What stands between the quotes is the name in the quoted form. -/
theorem quotedName?_quotedHeader (unquoted : '"' ∉ name.toList) (named : name ≠ "") :
    quotedName? (quotedHeader name).toList = some name := by
  have closed : (untilQuote? (name.toList ++ ['"'])).bind nonEmpty? = some name.toList :=
    (nonEmpty?_untilQuote? _ _).mpr
      ⟨fun empty => named (String.toList_eq_nil_iff.mp empty), unquoted, [], rfl⟩
  rw [quotedName?, toList_quotedHeader, afterEach_quotedMarker, List.findSome?_cons, closed]
  exact congrArg some String.ofList_toList

/-- **The name that a header with quotes gives**: the one with escapes between the quotes, if there
is one, and otherwise all that stands there, or the two quotes if that is nothing. -/
theorem filename?_quotedHeader (unquoted : '"' ∉ name.toList) :
    filename? (quotedHeader name) = some ((extendedName? (name.toList ++ ['"'])).getD
      (if name = "" then "\"\"" else name)) := by
  rw [filename?, extendedName?_quotedHeader]
  cases extended : extendedName? (name.toList ++ ['"']) with
  | some other => rfl
  | none =>
      by_cases named : name = ""
      · subst named
        decide
      · rw [quotedName?_quotedHeader unquoted named, if_neg named]
        rfl

/-! ## Names with escapes -/

/-- A name with escapes is not all of what stands between the quotes, as its marker stands there,
too. -/
theorem GivesExtended.ne_of_quoted {other : String}
    (gives : GivesExtended (name.toList ++ ['"']) other) : other ≠ name := by
  obtain ⟨value, ⟨front, _, ⟨head, lower, split⟩, ⟨-, -, behind, rfl, -⟩, -⟩, denotes⟩ := gives
  rintro rfl
  have short : other.utf8ByteSize ≤ (String.ofList value).utf8ByteSize := denotes.length_le
  have marker : (String.ofList head).utf8ByteSize = 17 := by
    rw [← utf8ByteSize_lower, lower]
    rfl
  have whole := congrArg (fun text => (String.ofList text).utf8ByteSize) split
  simp only [String.ofList_append, String.utf8ByteSize_append, String.ofList_toList, marker]
    at whole
  have quote : (String.ofList ['"']).utf8ByteSize = 1 := rfl
  omega

/-- A name with escapes is given between quotes only if its marker stands there. -/
theorem GivesExtended.infix_of_quoted {other : String}
    (gives : GivesExtended (name.toList ++ ['"']) other) :
    extendedMarker <:+: name.toList.map Char.toLower := by
  obtain ⟨value, ⟨front, rest, ⟨head, lower, split⟩, -⟩, -⟩ := gives
  have inside : extendedMarker <:+: name.toList.map Char.toLower ++ ['"'] := by
    refine ⟨front.map Char.toLower, rest.map Char.toLower, ?_⟩
    have lowered := congrArg (List.map Char.toLower) split
    rw [List.map_append, List.map_append, List.map_append, lower] at lowered
    rw [List.append_assoc]
    exact lowered.symm
  refine (List.infix_concat_iff.mp inside).resolve_left fun last => ?_
  -- No quote stands in the marker, so it does not reach the one that closes the value.
  rcases List.suffix_concat_iff.mp last with none | ⟨begin_, ends, -⟩
  · cases none
  · have quote : '"' ∈ extendedMarker := ends ▸ List.mem_concat_self
    exact absurd quote (by decide)

/-! ## The name of an archive -/

/-- **When what stands between the quotes is the name of an archive.**  It is, letter by letter, in
every project, if anything stands there and no name with escapes is given there; so it is if the
marker of such a name does not stand there, whatever else looks like a parameter.  A name with
escapes that is given there is the name of the archive instead, and it is another one, and two
quotes with nothing between them are the name themselves. -/
theorem archiveName_of_quoted (unquoted : '"' ∉ name.toList) (project : String) :
    (archiveName (some (quotedHeader name)) project = name ↔
      name ≠ "" ∧ ∀ other, ¬GivesExtended (name.toList ++ ['"']) other) ∧
    (name ≠ "" → ¬extendedMarker <:+: name.toList.map Char.toLower →
      archiveName (some (quotedHeader name)) project = name) ∧
    (∀ other, GivesExtended (name.toList ++ ['"']) other →
      archiveName (some (quotedHeader name)) project = other) ∧
    (name = "" → archiveName (some (quotedHeader name)) project = "\"\"") := by
  have given : archiveName (some (quotedHeader name)) project =
      (extendedName? (name.toList ++ ['"'])).getD (if name = "" then "\"\"" else name) := by
    rw [archiveName, Option.bind_some, filename?_quotedHeader unquoted]
  have escaped (other : String) (gives : GivesExtended (name.toList ++ ['"']) other) :
      archiveName (some (quotedHeader name)) project = other := by
    rw [given, extendedName?_eq_some_iff.mpr gives, Option.getD_some]
  have plain (free : ∀ other, ¬GivesExtended (name.toList ++ ['"']) other) :
      archiveName (some (quotedHeader name)) project = if name = "" then "\"\"" else name := by
    have nothing : extendedName? (name.toList ++ ['"']) = none :=
      Option.eq_none_iff_forall_ne_some.mpr fun other found =>
        free other (extendedName?_eq_some_iff.mp found)
    rw [given, nothing, Option.getD_none]
  have absent (free : ¬extendedMarker <:+: name.toList.map Char.toLower) (other : String) :
      ¬GivesExtended (name.toList ++ ['"']) other := fun gives => free gives.infix_of_quoted
  refine ⟨⟨fun same => ⟨?_, fun other gives => ?_⟩, ?_⟩, fun named free => ?_, escaped, ?_⟩
  · exact fun empty => archiveName_ne_empty _ _ (same.trans empty)
  · exact gives.ne_of_quoted ((escaped other gives).symm.trans same)
  · rintro ⟨named, nothing⟩
    rw [plain nothing, if_neg named]
  · rw [plain (absent free), if_neg named]
  · rintro rfl
    rw [plain (absent (by decide)), if_pos rfl]

/-- What looks like a parameter of its own, between the quotes. -/
theorem archiveName_of_quoted_parameter :
    let name := "north; filename=south.zip"
    '"' ∉ name.toList ∧ name ≠ "" ∧ (¬extendedMarker <:+: name.toList.map Char.toLower) ∧
      archiveName (some (quotedHeader name)) "Atlas" = name := by
  intro name
  have unquoted : '"' ∉ name.toList := by decide
  have named : name ≠ "" := by decide
  have free : ¬extendedMarker <:+: name.toList.map Char.toLower := by
    -- There is no star in the name.
    intro inside
    have star : '*' ∈ extendedMarker := by decide
    exact absurd (inside.subset star) (by decide)
  obtain ⟨-, verbatim, -, -⟩ := archiveName_of_quoted unquoted "Atlas"
  exact ⟨unquoted, named, free, verbatim named free⟩

/-- Between quotes a name with escapes is taken for a parameter, and nothing at all for a name. -/
theorem quoted_name_not_verbatim :
    ('"' ∉ "filename*=utf-8''x".toList ∧
      archiveName (some (quotedHeader "filename*=utf-8''x")) "Atlas" = "x\"" ∧
      archiveName (some (quotedHeader "filename*=utf-8''x")) "Atlas" ≠ "filename*=utf-8''x") ∧
    archiveName (some (quotedHeader "")) "Atlas" = "\"\"" ∧
    archiveName (some (quotedHeader "")) "Atlas" ≠ "Atlas.zip" := by
  have escaped : archiveName (some (quotedHeader "filename*=utf-8''x")) "Atlas" = "x\"" := by
    decide +kernel
  have nothing : archiveName (some (quotedHeader "")) "Atlas" = "\"\"" := by decide +kernel
  refine ⟨⟨by decide, escaped, ?_⟩, nothing, ?_⟩
  · rw [escaped]
    decide
  · rw [nothing]
    decide

end PatternRefinement.Disposition
