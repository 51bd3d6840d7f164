import PatternRefinement.Proofs.Disposition
import PatternRefinement.Proofs.Text.Denoted

/-!
# Which part of a header gives the name

## Main Definitions

* `Announced` — a marker stands somewhere in a text, in any ASCII letter case
* `UntilSemicolon`, `UntilQuote` — the value that begins a text, in either form
* `Decides` — the value behind the leftmost marker that has one
* `GivesExtended`, `GivesQuoted`, `GivesBare` — the name that a header gives in each of three forms

## Main Statements

* `findSome?_afterEach_eq_some_iff` — the first value that is found is the one that decides
* `announced_of_bytes` — a marker is found in lowered bytes only where it stands in the header
* `filename?_by_position` — the name that a header gives, by the places in it

## Design Notes

A place in a text is told by what stands in front of it.  So the leftmost of several places is the
one with the shortest front, and whether a form is usable is not said by trying it but by whether
there is a place for it.
-/

namespace PatternRefinement.Disposition

open Text.Percent (Denotes)

/-! ## Places of markers -/

/-- A marker stands in a text, in any ASCII letter case, behind a front and before the rest. -/
def Announced (marker text front rest : List Char) : Prop :=
  ∃ head, head.map Char.toLower = marker ∧ text = front ++ (head ++ rest)

/-- The value behind the leftmost marker that has one. -/
def Decides (marker : List Char) (Takes : List Char → List Char → Prop) (text value : List Char) :
    Prop :=
  ∃ front rest, Announced marker text front rest ∧ Takes rest value ∧
    ∀ other behind next, Announced marker text other behind → Takes behind next →
      front.length ≤ other.length

section Places

variable {marker text front rest value : List Char} {c : Char}
  {Takes : List Char → List Char → Prop}

theorem announced_nil : Announced marker text [] rest ↔ afterMarker? marker text = some rest :=
  afterMarker?_eq_some_iff.symm

theorem announced_cons {d : Char} :
    Announced marker (c :: text) (d :: front) rest ↔ c = d ∧ Announced marker text front rest := by
  simp only [Announced, List.cons_append, List.cons_eq_cons]
  exact ⟨fun ⟨head, lower, same, split⟩ => ⟨same, head, lower, split⟩,
    fun ⟨same, head, lower, split⟩ => ⟨head, lower, same, split⟩⟩

theorem not_announced_of_nil (nonempty : marker ≠ []) : ¬Announced marker [] front rest := by
  rintro ⟨head, lower, split⟩
  have inside := (List.append_eq_nil_iff.mp split.symm).2
  rw [(List.append_eq_nil_iff.mp inside).1] at lower
  exact nonempty lower.symm

/-- A marker at the start of a text that has no value leaves the decision to the rest. -/
theorem decides_cons (useless : ∀ rest value, Announced marker (c :: text) [] rest →
    ¬Takes rest value) :
    Decides marker Takes (c :: text) value ↔ Decides marker Takes text value := by
  constructor
  · rintro ⟨front, rest, announced, taken, leftmost⟩
    cases front with
    | nil => exact absurd taken (useless rest value announced)
    | cons d front =>
        obtain ⟨rfl, inside⟩ := announced_cons.mp announced
        refine ⟨front, rest, inside, taken, fun other behind next place takes => ?_⟩
        have shorter := leftmost (c :: other) behind next (announced_cons.mpr ⟨rfl, place⟩) takes
        exact Nat.le_of_succ_le_succ shorter
  · rintro ⟨front, rest, announced, taken, leftmost⟩
    refine ⟨c :: front, rest, announced_cons.mpr ⟨rfl, announced⟩, taken, ?_⟩
    intro other behind next place takes
    cases other with
    | nil => exact absurd takes (useless behind next place)
    | cons d other =>
        exact Nat.succ_le_succ (leftmost other behind next (announced_cons.mp place).2 takes)

/-- **The first value that is found is the one that decides.** -/
theorem findSome?_afterEach_eq_some_iff (nonempty : marker ≠ [])
    {read : List Char → Option (List Char)}
    (takes : ∀ rest value, read rest = some value ↔ Takes rest value) :
    (afterEach marker text).findSome? read = some value ↔ Decides marker Takes text value := by
  induction text with
  | nil =>
      refine ⟨nofun, fun ⟨front, rest, announced, _⟩ => ?_⟩
      exact absurd announced (not_announced_of_nil nonempty)
  | cons c text ih =>
      rw [afterEach]
      cases here : afterMarker? marker (c :: text) with
      | none =>
          refine ih.trans (decides_cons fun rest value announced => ?_).symm
          cases here.symm.trans (announced_nil.mp announced)
      | some behind =>
          have unique {rest : List Char} (announced : Announced marker (c :: text) [] rest) :
              behind = rest :=
            Option.some.inj (here.symm.trans (announced_nil.mp announced))
          dsimp only
          rw [List.findSome?_cons]
          cases first : read behind with
          | none =>
              refine ih.trans (decides_cons fun rest value announced taken => ?_).symm
              obtain rfl := unique announced
              cases first.symm.trans ((takes behind value).mpr taken)
          | some found =>
              have place : Announced marker (c :: text) [] behind := announced_nil.mpr here
              constructor
              · rintro ⟨⟩
                exact ⟨[], behind, place, (takes behind value).mp first,
                  fun _ _ _ _ _ => Nat.zero_le _⟩
              · -- Nothing is further to the left than the start.
                rintro ⟨front, rest, announced, taken, leftmost⟩
                have start := leftmost [] behind found place ((takes behind found).mp first)
                obtain rfl := List.eq_nil_of_length_eq_zero (Nat.le_zero.mp start)
                obtain rfl := unique announced
                rw [← first, (takes behind value).mpr taken]

end Places

/-! ## Values -/

/-- The value that begins a text and ends before its first semicolon, or with it. -/
def UntilSemicolon (text value : List Char) : Prop :=
  value ≠ [] ∧ ';' ∉ value ∧ ∃ behind, text = value ++ behind ∧ ∀ c ∈ behind.head?, c = ';'

/-- The value that begins a text and ends before its first quote, which is there. -/
def UntilQuote (text value : List Char) : Prop :=
  value ≠ [] ∧ '"' ∉ value ∧ ∃ behind, text = value ++ '"' :: behind

theorem takeWhile_ne_eq_iff {stop : Char} {text value : List Char} :
    text.takeWhile (· != stop) = value ↔
      stop ∉ value ∧ ∃ behind, text = value ++ behind ∧ ∀ c ∈ behind.head?, c = stop := by
  constructor
  · rintro rfl
    refine ⟨fun mem => ?_, text.dropWhile (· != stop), List.takeWhile_append_dropWhile.symm, ?_⟩
    · have kept : (stop != stop) = true := List.mem_takeWhile_imp (p := (· != stop)) mem
      exact absurd rfl (bne_iff_ne.mp kept)
    · intro c first
      have begins := List.head?_dropWhile_not (· != stop) text
      rw [Option.mem_def.mp first] at begins
      simpa using begins
  · rintro ⟨absent, behind, rfl, first⟩
    have inside : ∀ c ∈ value, (c != stop) = true := fun c mem =>
      bne_iff_ne.mpr (ne_of_mem_of_not_mem mem absent)
    rw [List.takeWhile_append_of_pos inside]
    cases behind with
    | nil => rw [List.takeWhile_nil, List.append_nil]
    | cons c rest =>
        obtain rfl := first c rfl
        rw [List.takeWhile_cons_of_neg (by simp), List.append_nil]

theorem nonEmpty?_eq_some_iff {text value : List Char} :
    nonEmpty? text = some value ↔ text = value ∧ value ≠ [] := by
  unfold nonEmpty?
  split
  · rename_i empty
    rw [List.isEmpty_iff.mp empty]
    exact ⟨nofun, fun ⟨same, nonempty⟩ => absurd same.symm nonempty⟩
  · rename_i nonempty
    rw [Option.some_inj]
    refine ⟨?_, And.left⟩
    rintro rfl
    exact ⟨rfl, fun empty => nonempty (List.isEmpty_iff.mpr empty)⟩

theorem nonEmpty?_untilSemicolon (text value : List Char) :
    nonEmpty? (untilSemicolon text) = some value ↔ UntilSemicolon text value := by
  rw [nonEmpty?_eq_some_iff, untilSemicolon, takeWhile_ne_eq_iff, UntilSemicolon]
  exact and_comm

theorem nonEmpty?_untilQuote? (text value : List Char) :
    (untilQuote? text).bind nonEmpty? = some value ↔ UntilQuote text value := by
  unfold untilQuote? UntilQuote
  split
  · rename_i quoted
    rw [Option.bind_some, nonEmpty?_eq_some_iff, takeWhile_ne_eq_iff]
    constructor
    · rintro ⟨⟨absent, behind, rfl, first⟩, nonempty⟩
      cases behind with
      | nil =>
          rw [List.append_nil, List.contains_iff_mem] at quoted
          exact absurd quoted absent
      | cons c rest =>
          obtain rfl := first c rfl
          exact ⟨nonempty, absent, rest, rfl⟩
    · rintro ⟨nonempty, absent, behind, rfl⟩
      refine ⟨⟨absent, '"' :: behind, rfl, ?_⟩, nonempty⟩
      rintro c ⟨⟩
      rfl
  · rename_i unquoted
    refine ⟨nofun, ?_⟩
    rintro ⟨-, -, behind, rfl⟩
    exact absurd (by simp) unquoted

/-! ## Names -/

/-- A header gives a name with percent escapes: the value that decides denotes the name. -/
def GivesExtended (header : List Char) (name : String) : Prop :=
  ∃ value, Decides extendedMarker UntilSemicolon header value ∧
    Denotes value name.toUTF8.data.toList

/-- A header gives a name in quotes: it is the value that decides, letter by letter. -/
def GivesQuoted (header : List Char) (name : String) : Prop :=
  Decides quotedMarker UntilQuote header name.toList

/-- A header gives a bare name: it is what is left of the value that decides without the blanks at
its ends. -/
def GivesBare (header : List Char) (name : String) : Prop :=
  ∃ value, Decides bareMarker UntilSemicolon header value ∧ Text.trim value = name.toList ∧
    name ≠ ""

section Names

variable {header : List Char} {name : String}

theorem extendedName?_eq_some_iff :
    extendedName? header = some name ↔ GivesExtended header name := by
  unfold extendedName? GivesExtended extendedValue?
  simp only [Option.bind_eq_some_iff,
    findSome?_afterEach_eq_some_iff (show extendedMarker ≠ [] by decide) nonEmpty?_untilSemicolon,
    ← Text.Percent.decode_eq_ok_iff]
  refine exists_congr fun value => and_congr_right fun _ => ?_
  cases Text.Percent.decode (String.ofList value) <;> simp [Except.toOption]

theorem quotedName?_eq_some_iff : quotedName? header = some name ↔ GivesQuoted header name := by
  unfold quotedName? GivesQuoted
  rw [Option.map_eq_some_iff, ← findSome?_afterEach_eq_some_iff (show quotedMarker ≠ [] by decide)
    nonEmpty?_untilQuote?]
  constructor
  · rintro ⟨value, found, rfl⟩
    rw [found, String.toList_ofList]
  · intro found
    exact ⟨name.toList, found, String.ofList_toList⟩

theorem bareName?_eq_some_iff : bareName? header = some name ↔ GivesBare header name := by
  unfold bareName? GivesBare
  simp only [Option.map_eq_some_iff, Option.bind_eq_some_iff, nonEmpty?_eq_some_iff,
    findSome?_afterEach_eq_some_iff (show bareMarker ≠ [] by decide) nonEmpty?_untilSemicolon]
  constructor
  · rintro ⟨_, ⟨value, decides, rfl, nonempty⟩, rfl⟩
    refine ⟨value, decides, String.toList_ofList.symm, fun empty => ?_⟩
    exact nonempty (String.ofList_eq_empty_iff.mp empty)
  · rintro ⟨value, decides, same, nonempty⟩
    exact ⟨name.toList, ⟨value, decides, same, fun empty =>
      nonempty (String.toList_eq_nil_iff.mp empty)⟩, String.ofList_toList⟩

/-- No form gives an empty name. -/
theorem GivesExtended.ne_empty (gives : GivesExtended header name) : name ≠ "" := by
  obtain ⟨value, ⟨front, rest, -, ⟨nonempty, -⟩, -⟩, denotes⟩ := gives
  rintro rfl
  exact denotes.ne_nil nonempty rfl

theorem GivesQuoted.ne_empty (gives : GivesQuoted header name) : name ≠ "" := by
  obtain ⟨front, rest, -, ⟨nonempty, -⟩, -⟩ := gives
  exact fun empty => nonempty (String.toList_eq_nil_iff.mpr empty)

end Names

/-- The forms are tried in order. -/
theorem filename?_eq_some_iff {header name : String} : filename? header = some name ↔
    GivesExtended header.toList name ∨
    (∀ other, ¬GivesExtended header.toList other) ∧ (GivesQuoted header.toList name ∨
      (∀ other, ¬GivesQuoted header.toList other) ∧ GivesBare header.toList name) := by
  have ordered (first second : Option String) : (first.orElse fun _ => second) = some name ↔
      first = some name ∨ (∀ other, ¬first = some other) ∧ second = some name := by
    cases first <;> simp
  rw [filename?, ordered, ordered]
  simp only [extendedName?_eq_some_iff, quotedName?_eq_some_iff, bareName?_eq_some_iff]

theorem ne_empty_of_filename? {header name : String} (given : filename? header = some name) :
    name ≠ "" := by
  rcases filename?_eq_some_iff.mp given with extended | ⟨-, quoted | ⟨-, value, -, -, nonempty⟩⟩
  · exact extended.ne_empty
  · exact quoted.ne_empty
  · exact nonempty

/-- No archive is without a name. -/
theorem archiveName_ne_empty (header? : Option String) (project : String) :
    archiveName header? project ≠ "" := by
  unfold archiveName
  split
  · rename_i name given
    obtain ⟨header, -, given⟩ := Option.bind_eq_some_iff.mp given
    exact ne_empty_of_filename? given
  · split
    · decide
    · exact fun empty => absurd (String.append_eq_empty_iff.mp empty).2 (by decide)

/-! ## Places in bytes -/

theorem utf8Size_toLower (c : Char) : c.toLower.utf8Size = c.utf8Size := by
  unfold Char.toLower
  split
  · rename_i upper
    have before : c.utf8Size = 1 := by
      rw [Char.utf8Size_eq_one_iff]
      exact UInt32.le_trans upper.2 (by decide)
    have high : c.val.toNat ≤ 90 := UInt32.le_iff_toNat_le.mp upper.2
    have shift : ('a'.val - 'A'.val).toNat = 32 := rfl
    have limit : (0x7f : UInt32).toNat = 127 := rfl
    rw [before, Char.utf8Size_eq_one_iff, UInt32.le_iff_toNat_le, UInt32.toNat_add, shift, limit]
    omega
  · rfl

/-- Lowering the letters of a text does not change how many bytes it has. -/
theorem utf8ByteSize_lower (text : List Char) :
    (String.ofList (text.map Char.toLower)).utf8ByteSize = (String.ofList text).utf8ByteSize := by
  induction text with
  | nil => rfl
  | cons c text ih =>
      rw [List.map_cons, String.ofList_cons, String.ofList_cons, String.utf8ByteSize_append,
        String.utf8ByteSize_append, String.utf8ByteSize_singleton, String.utf8ByteSize_singleton,
        utf8Size_toLower, ih]

/-- A place of a marker is told by two offsets that characters begin or end at. -/
theorem Announced.isValid {marker front rest : List Char} {header : String}
    (announced : Announced marker header.toList front rest) :
    String.Pos.Raw.IsValid header ⟨(String.ofList front).utf8ByteSize⟩ ∧
    String.Pos.Raw.IsValid header
      ⟨(String.ofList front).utf8ByteSize + (String.ofList marker).utf8ByteSize⟩ := by
  obtain ⟨head, rfl, split⟩ := announced
  have whole : header = String.ofList front ++ (String.ofList head ++ String.ofList rest) := by
    rw [← String.ofList_append, ← String.ofList_append, ← split, String.ofList_toList]
  rw [String.Pos.Raw.isValid_iff_exists_append, String.Pos.Raw.isValid_iff_exists_append,
    utf8ByteSize_lower]
  refine ⟨⟨_, _, whole, String.Pos.Raw.ext rfl⟩, String.ofList front ++ String.ofList head, _,
    whole.trans String.append_assoc.symm, String.Pos.Raw.ext ?_⟩
  exact (String.utf8ByteSize_append ..).symm

/-- **A marker is found in lowered bytes only where it stands in the header.** -/
theorem announced_of_bytes {marker : List Char} (nonempty : marker ≠ []) {header : String}
    {before behind : ByteArray} (found : header.toLower.toByteArray =
      before ++ ((String.ofList marker).toByteArray ++ behind)) :
    ∃ front rest, Announced marker header.toList front rest ∧
      (String.ofList front).utf8ByteSize = before.size := by
  obtain ⟨lowered, others, split, rfl⟩ := Text.exists_split_of_bytes
    (fun empty => nonempty (String.ofList_eq_empty_iff.mp empty)) found
  have letters := congrArg String.toList split
  have each : header.toLower = header.map Char.toLower := rfl
  rw [each, String.toList_map, String.toList_append, String.toList_append,
    String.toList_ofList, List.map_eq_append_iff] at letters
  obtain ⟨front, back, cut, lower, inside⟩ := letters
  obtain ⟨head, rest, rfl, announced, -⟩ := List.map_eq_append_iff.mp inside
  refine ⟨front, rest, ⟨head, announced, cut⟩, ?_⟩
  rw [← utf8ByteSize_lower, lower, String.ofList_toList, String.size_toByteArray]

/-! ## All headers -/

/-- **The name that a header gives is told by the places in it.**  The value that decides in the
form with escapes gives the name if it denotes one; if not, the value that decides in the quoted
form does, if there is one; if not, the value that decides in the bare form, without the blanks at
its ends.  A name that is given is not empty, and neither is the name of any archive.

Where a marker is found in the bytes of the lowered header, it stands in the header itself, between
two offsets that are boundaries of characters there. -/
theorem filename?_by_position (header : String) :
    (∀ name, filename? header = some name ↔
      GivesExtended header.toList name ∨
      (∀ other, ¬GivesExtended header.toList other) ∧ (GivesQuoted header.toList name ∨
        (∀ other, ¬GivesQuoted header.toList other) ∧ GivesBare header.toList name)) ∧
    (∀ name, filename? header = some name → name ≠ "") ∧
    (∀ header? project, archiveName header? project ≠ "") ∧
    ∀ marker ∈ [extendedMarker, quotedMarker, bareMarker], ∀ before behind : ByteArray,
      header.toLower.toByteArray = before ++ ((String.ofList marker).toByteArray ++ behind) →
      String.Pos.Raw.IsValid header ⟨before.size⟩ ∧
      String.Pos.Raw.IsValid header ⟨before.size + (String.ofList marker).utf8ByteSize⟩ ∧
      ∃ front rest, Announced marker header.toList front rest ∧
        (String.ofList front).utf8ByteSize = before.size := by
  refine ⟨fun name => filename?_eq_some_iff, fun name => ne_empty_of_filename?,
    archiveName_ne_empty, fun marker mem before behind found => ?_⟩
  have nonempty : ∀ marker ∈ [extendedMarker, quotedMarker, bareMarker], marker ≠ [] := by decide
  obtain ⟨front, rest, announced, size⟩ := announced_of_bytes (nonempty marker mem) found
  obtain ⟨start, ending⟩ := announced.isValid
  rw [size] at start ending
  exact ⟨start, ending, front, rest, announced, size⟩

end PatternRefinement.Disposition
