import Mathlib.Data.List.TakeWhile
import PatternRefinement.Disposition
import PatternRefinement.Proofs.Text.Percent

/-!
# File names in headers

## Main Definitions

* `Borderless` — no beginning of a marker is also an end of it

## Main Statements

* `afterMarker?_eq_some_iff` — a marker is found exactly where its letters stand, in any letter case
* `afterEach_append` — behind a text without the marker it is found where it stands first
* `filename?_of_encodes` — a name that was escaped by any writer is found again

## Design Notes

A marker that is looked for might begin in what stands before it.  It cannot, because none of the
markers ends with the letters that it begins with.
-/

namespace PatternRefinement.Disposition

open Text.Percent (Encodes Escapes IsHexDigit)

/-! ## Markers -/

theorem afterMarker?_eq_some_iff {marker text rest : List Char} :
    afterMarker? marker text = some rest ↔
      ∃ head, head.map Char.toLower = marker ∧ text = head ++ rest := by
  induction marker generalizing text with
  | nil => simp [afterMarker?]
  | cons m marker ih =>
      cases text with
      | nil => simp [afterMarker?]
      | cons c text =>
          rw [afterMarker?]
          split
          · rename_i same
            rw [ih]
            constructor
            · rintro ⟨head, lower, rfl⟩
              exact ⟨c :: head, by rw [List.map_cons, same, lower], rfl⟩
            · rintro ⟨head, lower, split⟩
              cases head with
              | nil => cases lower
              | cons first head =>
                  obtain ⟨rfl, rfl⟩ := List.cons_eq_cons.mp split
                  exact ⟨head, (List.cons_eq_cons.mp lower).2, rfl⟩
          · rename_i different
            refine ⟨nofun, fun ⟨head, lower, split⟩ => ?_⟩
            cases head with
            | nil => cases lower
            | cons first head =>
                obtain ⟨rfl, rfl⟩ := List.cons_eq_cons.mp split
                exact absurd (List.cons_eq_cons.mp lower).1 different

/-- No proper beginning of a marker is also an end of it. -/
def Borderless (marker : List Char) : Prop :=
  ∀ k < marker.length, 0 < k → marker.take k ≠ marker.drop (marker.length - k)

instance (marker : List Char) : Decidable (Borderless marker) :=
  inferInstanceAs (Decidable (∀ k < marker.length, 0 < k → _))

theorem borderless_extendedMarker : Borderless extendedMarker := by decide

/-- A marker that starts before another one of its kind ends before it. -/
theorem afterMarker?_append_eq_none {marker : List Char} (borderless : Borderless marker)
    {front head : List Char} (rest : List Char) (nonempty : front ≠ [])
    (absent : ¬marker <:+: front.map Char.toLower) (announced : head.map Char.toLower = marker) :
    afterMarker? marker (front ++ (head ++ rest)) = none := by
  cases found : afterMarker? marker (front ++ (head ++ rest)) with
  | none => rfl
  | some behind =>
      exfalso
      obtain ⟨other, lower, split⟩ := afterMarker?_eq_some_iff.mp found
      rcases List.append_eq_append_iff.mp split with ⟨common, rfl, inside⟩ | ⟨between, rfl, -⟩
      · -- The end of the first marker is the beginning of the second.
        rw [List.map_append] at lower
        have size : marker.length = head.length := by rw [← announced, List.length_map]
        have length : front.length + common.length = head.length := by
          rw [← size, ← lower, List.length_append, List.length_map, List.length_map]
        have some : 0 < front.length := List.length_pos_iff.mpr nonempty
        have begins : common = head.take common.length := by
          have taken := congrArg (List.take common.length) inside
          rw [List.take_append_of_le_length (by omega), List.take_left] at taken
          exact taken.symm
        have ends : common.map Char.toLower = marker.drop front.length := by
          rw [← lower, ← List.length_map Char.toLower, List.drop_left]
        rcases Nat.eq_zero_or_pos common.length with none | positive
        · rw [List.eq_nil_of_length_eq_zero none, List.map_nil, List.append_nil] at lower
          exact absent (lower ▸ List.infix_refl _)
        · refine borderless common.length (by omega) positive ?_
          rw [show marker.length - common.length = front.length by omega, ← ends, begins,
            ← announced, List.map_take, ← begins]
      · rw [List.map_append, lower] at absent
        exact absent (List.prefix_append _ _).isInfix

/-- **Behind a text without it, a marker is found where it stands first.** -/
theorem afterEach_append {marker : List Char} (borderless : Borderless marker)
    (nonempty : marker ≠ []) {front head : List Char} (rest : List Char)
    (absent : ¬marker <:+: front.map Char.toLower) (announced : head.map Char.toLower = marker) :
    ∃ others, afterEach marker (front ++ (head ++ rest)) = rest :: others := by
  induction front with
  | nil =>
      have here : afterMarker? marker (head ++ rest) = some rest :=
        afterMarker?_eq_some_iff.mpr ⟨head, announced, rfl⟩
      cases head with
      | nil => exact absurd announced.symm nonempty
      | cons c head =>
          refine ⟨afterEach marker (head ++ rest), ?_⟩
          rw [List.nil_append, List.cons_append, afterEach, ← List.cons_append, here]
  | cons c front ih =>
      have nothing := afterMarker?_append_eq_none borderless rest
        (List.cons_ne_nil c front) absent announced
      rw [List.cons_append] at nothing ⊢
      rw [afterEach, nothing]
      exact ih fun inside => absent (List.infix_cons inside)

/-! ## Names with escapes -/

theorem ne_semicolon_of_isHexDigit {value : Nat} {digit : Char} (h : IsHexDigit value digit) :
    digit ≠ ';' := by
  rintro rfl
  rcases h with lower | upper
  · exact absurd (List.mem_of_getElem? lower) (by decide)
  · exact absurd (List.mem_of_getElem? upper) (by decide)

theorem semicolon_not_mem_of_escapes {bytes : List UInt8} {escape : List Char}
    (escapes : Escapes bytes escape) : ';' ∉ escape := by
  induction escapes with
  | nil => exact List.not_mem_nil
  | cons first second _ ih =>
      simp only [List.mem_cons, not_or]
      exact ⟨by decide, (ne_semicolon_of_isHexDigit first).symm,
        (ne_semicolon_of_isHexDigit second).symm, ih⟩

variable {reserved name text : List Char}

theorem semicolon_not_mem_of_encodes (encodes : Encodes reserved name text)
    (semicolon : ';' ∈ reserved) : ';' ∉ text := by
  induction encodes with
  | nil => exact List.not_mem_nil
  | plain free _ ih =>
      exact List.not_mem_cons_of_ne_of_not_mem (ne_of_mem_of_not_mem semicolon free) ih
  | escaped escapes _ ih =>
      rw [List.mem_append, not_or]
      exact ⟨semicolon_not_mem_of_escapes escapes, ih⟩

theorem ne_nil_of_escapes {bytes : List UInt8} {escape : List Char}
    (escapes : Escapes bytes escape) (some : bytes ≠ []) : escape ≠ [] := by
  cases escapes with
  | nil => exact absurd rfl some
  | cons _ _ _ => exact List.cons_ne_nil _ _

theorem ne_nil_of_encodes (encodes : Encodes reserved name text) (named : name ≠ []) :
    text ≠ [] := by
  cases encodes with
  | nil => exact absurd rfl named
  | plain _ _ => exact List.cons_ne_nil _ _
  | escaped escapes _ =>
      exact List.append_ne_nil_of_left_ne_nil
        (ne_nil_of_escapes escapes String.utf8EncodeChar_ne_nil) _

/-- A value ends with the text or before a semicolon. -/
theorem untilSemicolon_append {value behind : List Char} (absent : ';' ∉ value)
    (ended : behind = [] ∨ behind.head? = some ';') :
    untilSemicolon (value ++ behind) = value := by
  have inside : ∀ c ∈ value, (c != ';') = true := fun c mem =>
    bne_iff_ne.mpr (ne_of_mem_of_not_mem mem absent)
  have outside : behind.takeWhile (· != ';') = [] := by
    rcases ended with rfl | first
    · rfl
    · obtain ⟨rest, rfl⟩ := List.head?_eq_some_iff.mp first
      rfl
  rw [untilSemicolon, List.takeWhile_append_of_pos inside, outside, List.append_nil]

/-- The first value that is announced decides, unless it is empty. -/
theorem extendedValue?_append {front marker value behind : List Char}
    (absent : ¬extendedMarker <:+: front.map Char.toLower)
    (announced : marker.map Char.toLower = extendedMarker) (nonempty : value ≠ [])
    (inside : ';' ∉ value) (ended : behind = [] ∨ behind.head? = some ';') :
    extendedValue? (front ++ (marker ++ (value ++ behind))) = some value := by
  obtain ⟨others, found⟩ := afterEach_append borderless_extendedMarker (by decide)
    (value ++ behind) absent announced
  have kept : nonEmpty? value = some value :=
    if_neg fun empty => nonempty (List.isEmpty_iff.mp empty)
  rw [extendedValue?, found, List.findSome?_cons, untilSemicolon_append inside ended, kept]

/-- **A name that was escaped by any writer is found again.**  Whatever stands before the marker,
as long as it does not hold the marker itself, and whatever follows behind a semicolon, the header
gives exactly the name that was escaped, and an archive is called by it in every project. -/
theorem filename?_of_encodes {name encoding front marker behind : String} (named : name ≠ "")
    (encodes : Encodes ['%', ';'] name.toList encoding.toList)
    (absent : ¬extendedMarker <:+: front.toList.map Char.toLower)
    (announced : marker.toList.map Char.toLower = extendedMarker)
    (ended : behind = "" ∨ behind.toList.head? = some ';') :
    filename? (front ++ marker ++ encoding ++ behind) = some name ∧
      ∀ project, archiveName (some (front ++ marker ++ encoding ++ behind)) project = name := by
  have nonempty : encoding.toList ≠ [] :=
    ne_nil_of_encodes encodes fun empty => named (String.toList_eq_nil_iff.mp empty)
  have decoded : Text.Percent.decode encoding = .ok name := by
    have read := Text.Percent.decode_of_encodes encodes (by decide)
    rwa [String.ofList_toList, String.ofList_toList] at read
  have split : (front ++ marker ++ encoding ++ behind).toList =
      front.toList ++ (marker.toList ++ (encoding.toList ++ behind.toList)) := by
    simp only [String.toList_append, List.append_assoc]
  have value : extendedValue? (front ++ marker ++ encoding ++ behind).toList =
      some encoding.toList := by
    rw [split]
    exact extendedValue?_append absent announced nonempty
      (semicolon_not_mem_of_encodes encodes (by decide))
      (ended.imp_left String.toList_eq_nil_iff.mpr)
  have found : filename? (front ++ marker ++ encoding ++ behind) = some name := by
    simp only [filename?, extendedName?, value, Option.bind_some, String.ofList_toList, decoded]
    rfl
  refine ⟨found, fun project => ?_⟩
  rw [archiveName, Option.bind_some, found]

/-- A name with a letter outside of ASCII and a semicolon, and a quoted name behind it. -/
theorem filename?_of_encodes_semicolon :
    let name := "né;1.zip"
    let encoding := "n%c3%A9%3b1.zip"
    let front := "attachment; filename=x; "
    let marker := "FileName*=UTF-8''"
    let behind := "; filename=\"y\""
    name ≠ "" ∧ Encodes ['%', ';'] name.toList encoding.toList ∧
      (¬extendedMarker <:+: front.toList.map Char.toLower) ∧
      marker.toList.map Char.toLower = extendedMarker ∧
      (behind = "" ∨ behind.toList.head? = some ';') ∧
      filename? (front ++ marker ++ encoding ++ behind) = some name ∧
      archiveName (some (front ++ marker ++ encoding ++ behind)) "Atlas" = name := by
  intro name encoding front marker behind
  have encodes : Encodes ['%', ';'] name.toList encoding.toList := by
    have letter : Escapes (String.utf8EncodeChar 'é') "%c3%A9".toList :=
      .cons (.inl rfl) (.inl rfl) (.cons (.inr rfl) (.inl rfl) .nil)
    have mark : Escapes (String.utf8EncodeChar ';') "%3b".toList :=
      .cons (.inl rfl) (.inl rfl) .nil
    have kept : Encodes ['%', ';'] ['1', '.', 'z', 'i', 'p'] ['1', '.', 'z', 'i', 'p'] :=
      .plain (by decide) (.plain (by decide) (.plain (by decide) (.plain (by decide)
        (.plain (by decide) .nil))))
    have letters : name.toList = ['n', 'é', ';', '1', '.', 'z', 'i', 'p'] := by decide
    have parts : encoding.toList =
        'n' :: ("%c3%A9".toList ++ ("%3b".toList ++ ['1', '.', 'z', 'i', 'p'])) := by decide
    rw [letters, parts]
    exact .plain (by decide) (.escaped letter (.escaped mark kept))
  have named : name ≠ "" := by decide
  have absent : ¬extendedMarker <:+: front.toList.map Char.toLower := by
    -- There is no star in what stands before the marker.
    intro inside
    have star : '*' ∈ extendedMarker := by decide
    exact absurd (inside.subset star) (by decide)
  have announced : marker.toList.map Char.toLower = extendedMarker := by decide
  have ended : behind = "" ∨ behind.toList.head? = some ';' := .inr (by decide)
  obtain ⟨found, archive⟩ := filename?_of_encodes named encodes absent announced ended
  exact ⟨named, encodes, absent, announced, ended, found, archive "Atlas"⟩

end PatternRefinement.Disposition
