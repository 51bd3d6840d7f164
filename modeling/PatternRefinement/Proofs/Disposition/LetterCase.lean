import PatternRefinement.Proofs.Disposition.Positions
import PatternRefinement.Proofs.Text.LetterCase

/-!
# Headers that differ in letter case

## Main Statements

* `afterEach_lower` — in lower case markers stand where they stood
* `findSome?_lower` — in lower case the same value decides
* `filename?_lower` — in lower case a header gives the same name, in lower case
* `filename?_of_same_letters` — the letter case of a header does not change which name it gives

## Design Notes

Every header is compared with itself in lower case.  Reading goes through a header in the same way
in both cases, step by step, up to where escapes are undone: there only the names can be compared.
-/

namespace PatternRefinement.Disposition

/-- A text in lower case. -/
abbrev lower (text : List Char) : List Char := text.map Char.toLower

/-! ## Places -/

theorem afterMarker?_lower (marker text : List Char) :
    afterMarker? marker (lower text) = (afterMarker? marker text).map lower := by
  induction marker generalizing text with
  | nil => rfl
  | cons m marker ih =>
      cases text with
      | nil => rfl
      | cons c text =>
          rw [lower, List.map_cons, afterMarker?, afterMarker?, Text.toLower_toLower, ih]
          split <;> rfl

/-- **In lower case markers stand where they stood.** -/
theorem afterEach_lower (marker text : List Char) :
    afterEach marker (lower text) = (afterEach marker text).map lower := by
  induction text with
  | nil => rfl
  | cons c text ih =>
      have here := afterMarker?_lower marker (c :: text)
      rw [lower, List.map_cons] at here ⊢
      rw [afterEach, afterEach, here, ih]
      cases afterMarker? marker (c :: text) <;> rfl

/-! ## Values -/

/-- A mark without a case ends a text where it ended. -/
theorem takeWhile_lower {mark : Char} (plain : mark.toLower = mark) (capital : mark.toUpper = mark)
    (text : List Char) :
    (lower text).takeWhile (· != mark) = lower (text.takeWhile (· != mark)) := by
  have same : (· != mark) ∘ Char.toLower = (· != mark) := by
    funext c
    rw [Function.comp_apply, bne, bne, Bool.not_inj_iff, beq_eq_beq]
    exact Text.toLower_eq_iff plain capital
  rw [lower, List.takeWhile_map, same]

theorem untilSemicolon_lower (text : List Char) :
    untilSemicolon (lower text) = lower (untilSemicolon text) :=
  takeWhile_lower rfl rfl text

theorem nonEmpty?_lower (value : List Char) :
    nonEmpty? (lower value) = (nonEmpty? value).map lower := by
  cases value <;> rfl

theorem untilQuote?_lower (text : List Char) :
    untilQuote? (lower text) = (untilQuote? text).map lower := by
  have quoted : (lower text).contains '"' = text.contains '"' := by
    rw [Bool.eq_iff_iff, List.contains_iff_mem, List.contains_iff_mem, List.mem_map]
    constructor
    · rintro ⟨c, mem, same⟩
      rwa [(Text.toLower_eq_iff rfl rfl).mp same] at mem
    · exact fun mem => ⟨'"', mem, rfl⟩
  unfold untilQuote?
  rw [quoted, takeWhile_lower rfl rfl]
  split <;> rfl

theorem trim_lower (text : List Char) : Text.trim (lower text) = lower (Text.trim text) := by
  have same : Text.isBlank ∘ Char.toLower = Text.isBlank := funext Text.isBlank_toLower
  rw [Text.trim, Text.trim, Text.trimEnd, Text.trimEnd, Text.trimStart, Text.trimStart, lower,
    List.dropWhile_map, same, ← List.map_reverse, List.dropWhile_map, same, ← List.map_reverse]

/-- **In lower case the same value decides.** -/
theorem findSome?_lower {read : List Char → Option (List Char)}
    (alike : ∀ text, read (lower text) = (read text).map lower) (marker text : List Char) :
    (afterEach marker (lower text)).findSome? read =
      ((afterEach marker text).findSome? read).map lower := by
  rw [afterEach_lower]
  induction afterEach marker text with
  | nil => rfl
  | cons rest others ih =>
      rw [List.map_cons, List.findSome?_cons, List.findSome?_cons, alike, ih]
      cases read rest <;> rfl

/-! ## Names -/

theorem ofList_lower (text : List Char) :
    String.ofList (lower text) = (String.ofList text).toLower := by
  show _ = (String.ofList text).map Char.toLower
  rw [← String.toList_inj, String.toList_map, String.toList_ofList, String.toList_ofList]

theorem quotedName?_lower (header : List Char) :
    quotedName? (lower header) = (quotedName? header).map String.toLower := by
  have alike (text : List Char) : (untilQuote? (lower text)).bind nonEmpty? =
      ((untilQuote? text).bind nonEmpty?).map lower := by
    rw [untilQuote?_lower]
    cases untilQuote? text with
    | none => rfl
    | some value => exact nonEmpty?_lower value
  rw [quotedName?, quotedName?, findSome?_lower alike, Option.map_map, Option.map_map]
  exact congrArg (Option.map · _) (funext ofList_lower)

theorem unescapedValue?_lower (marker header : List Char) :
    ((afterEach marker (lower header)).findSome? fun rest => nonEmpty? (untilSemicolon rest)) =
      ((afterEach marker header).findSome? fun rest => nonEmpty? (untilSemicolon rest)).map lower :=
  findSome?_lower (fun text => by rw [untilSemicolon_lower, nonEmpty?_lower]) marker header

theorem bareName?_lower (header : List Char) :
    bareName? (lower header) = (bareName? header).map String.toLower := by
  rw [bareName?, bareName?, unescapedValue?_lower]
  cases (afterEach bareMarker header).findSome? fun rest => nonEmpty? (untilSemicolon rest) with
  | none => rfl
  | some value =>
      rw [Option.map_some, Option.bind_some, Option.bind_some, trim_lower, nonEmpty?_lower,
        Option.map_map, Option.map_map]
      exact congrArg (Option.map · _) (funext ofList_lower)

/-- What is escaped denotes the same name in both cases, up to the case of its letters. -/
theorem decode_lower (value : List Char) :
    (Text.Percent.decode (String.ofList (lower value))).toOption.map String.toLower =
      (Text.Percent.decode (String.ofList value)).toOption.map String.toLower := by
  have idempotent : lower (lower value) = lower value := by
    rw [lower, lower, List.map_map]
    exact congrArg (List.map · _) (funext Text.toLower_toLower)
  cases read : Text.Percent.decode (String.ofList value) with
  | ok name =>
      obtain ⟨another, found, same⟩ :=
        Text.Percent.exists_decode_of_same_letters read idempotent.symm
      rw [found]
      exact congrArg some same
  | error e =>
      cases found : Text.Percent.decode (String.ofList (lower value)) with
      | error _ => rfl
      | ok name =>
          -- What is denoted in lower case is denoted in the case of the header as well.
          obtain ⟨another, given, -⟩ :=
            Text.Percent.exists_decode_of_same_letters found idempotent
          cases read.symm.trans given

theorem extendedName?_lower (header : List Char) :
    (extendedName? (lower header)).map String.toLower =
      (extendedName? header).map String.toLower := by
  rw [extendedName?, extendedName?, extendedValue?, extendedValue?, unescapedValue?_lower]
  cases (afterEach extendedMarker header).findSome? fun rest => nonEmpty? (untilSemicolon rest) with
  | none => rfl
  | some value => exact decode_lower value

theorem toLower_toLower (text : String) : text.toLower.toLower = text.toLower := by
  show (text.map Char.toLower).map Char.toLower = text.map Char.toLower
  rw [← String.toList_inj, String.toList_map, String.toList_map, List.map_map]
  exact congrArg (List.map · _) (funext Text.toLower_toLower)

/-- **In lower case a header gives the same name, in lower case.** -/
theorem filename?_lower (header : String) :
    (filename? header.toLower).map String.toLower = (filename? header).map String.toLower := by
  have letters : header.toLower.toList = lower header.toList := String.toList_map
  have twice (name? : Option String) :
      (name?.map String.toLower).map String.toLower = name?.map String.toLower := by
    rw [Option.map_map]
    exact congrArg (Option.map · _) (funext toLower_toLower)
  -- The forms are tried in the same order, so the first one that gives a name is the same.
  have tried (first second : Option String) : (first.orElse fun _ => second).map String.toLower =
      (first.map String.toLower).orElse fun _ => second.map String.toLower := by
    cases first <;> rfl
  simp only [filename?, letters, quotedName?_lower, bareName?_lower, tried, twice,
    extendedName?_lower]

/-- **The letter case of a header does not change which name it gives.**  Headers that are the same
in lower case both give a name or both give none, and the names are the same in lower case. -/
theorem filename?_of_same_letters {header other : String}
    (same : header.toLower = other.toLower) :
    Option.Rel (fun name another => name.toLower = another.toLower)
      (filename? header) (filename? other) := by
  have names : (filename? header).map String.toLower = (filename? other).map String.toLower := by
    rw [← filename?_lower header, ← filename?_lower other, same]
  cases given : filename? header with
  | none =>
      rw [given] at names
      rw [Option.map_eq_none_iff.mp names.symm]
      exact .none
  | some name =>
      rw [given] at names
      obtain ⟨another, found, lowered⟩ := Option.map_eq_some_iff.mp names.symm
      rw [found]
      exact .some lowered.symm

/-- An escape that denotes a letter, and digits and letters in both cases. -/
theorem filename?_of_same_letters_escaped :
    let header := "attachment; filename*=UTF-8''%4A%c3%A9.ZIP"
    let other := "Attachment; FileName*=utf-8''%4a%C3%a9.zip"
    header.toLower = other.toLower ∧ filename? header = some "Jé.ZIP" ∧
      filename? other = some "Jé.zip" ∧
      Option.Rel (fun name another => name.toLower = another.toLower)
        (filename? header) (filename? other) := by
  intro header other
  have same : header.toLower = other.toLower := by
    show header.map Char.toLower = other.map Char.toLower
    rw [← String.toList_inj, String.toList_map, String.toList_map]
    decide +kernel
  exact ⟨same, by decide +kernel, by decide +kernel, filename?_of_same_letters same⟩

end PatternRefinement.Disposition
