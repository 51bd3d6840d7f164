import Mathlib.Data.List.DropRight
import Mathlib.Data.List.TakeWhile
import PatternRefinement.Proofs.Text.Split
import PatternRefinement.WebAddress.Reader

/-!
# What addresses over the web are read from

An address over the web has a scheme, an authority that ends at the first slash, and a path, and it
may have a query and a fragment.

## Main Definitions

* `WebAddress.opened` — a text without what does not count at its start and inside of it
* `WebAddress.namedAuthority`, `WebAddress.namedPath` — what authority and path are read from
* `WebAddress.authorityBehind`, `WebAddress.pathBehind` — the same, behind the scheme of a text

## Main Statements

* `AddressParts.main_append_of_marked` — what goes on behind a mark belongs to a query or fragment
* `WebAddress.cutScheme?_append` — what goes on behind a text goes on behind its scheme
* `WebAddress.read_of_cut` — an address over the web is read from its authority and its path, each
  on its own

## Design Notes

Reading an authority looks at what stands behind it in one case only, and then there is no host.
Schemes of the web need one, so authority and path can be looked at apart.
-/

namespace PatternRefinement

/-! ## Cutting -/

theorem Text.cutAt_fst (mark : Char) (text : List Char) :
    (Text.cutAt mark text).1 = text.takeWhile (· != mark) := by
  unfold Text.cutAt
  split
  · rename_i all
    exact (List.takeWhile_eq_self_iff.mpr (List.dropWhile_eq_nil_iff.mp all)).symm
  · rfl

namespace AddressParts

/-- Query and fragment begin at their first mark. -/
theorem main_ofText (text : List Char) :
    (ofText text).main = text.takeWhile fun c => c != '?' && c != '#' := by
  unfold ofText
  dsimp only
  rw [Text.cutAt_fst, Text.cutAt_fst, List.takeWhile_takeWhile]
  simp only [Bool.decide_and, Bool.decide_eq_true]

/-- What goes on behind a mark belongs to a query or fragment. -/
theorem main_append_of_marked {text : List Char} (marked : '?' ∈ text ∨ '#' ∈ text)
    (behind : List Char) : (ofText (text ++ behind)).main = (ofText text).main := by
  rw [main_ofText, main_ofText, List.takeWhile_append, if_neg]
  intro all
  have inside := List.takeWhile_eq_self_iff.mp
    ((List.takeWhile_prefix _).eq_of_length all)
  rcases marked with mem | mem <;> cases inside _ mem

theorem main_of_unmarked {text : List Char} (query : '?' ∉ text) (fragment : '#' ∉ text) :
    (ofText text).main = text := by
  rw [main_ofText, List.takeWhile_eq_self_iff]
  intro c mem
  simp only [Bool.and_eq_true, bne_iff_ne]
  exact ⟨fun same => query (same ▸ mem), fun same => fragment (same ▸ mem)⟩

end AddressParts

namespace WebAddress

/-- A character that does not count at an end of a text: a control character or a blank. -/
def isEdge (c : Char) : Bool := c.toNat ≤ 0x20

/-- A character that counts inside of a text: no tab and no line end. -/
def isInner (c : Char) : Bool := c != '\t' && c != '\n' && c != '\r'

/-- A text without what does not count at its start and inside of it. -/
def opened (text : List Char) : List Char :=
  (text.dropWhile isEdge).filter isInner

theorem cleaned_eq (text : List Char) :
    cleaned text = ((text.dropWhile isEdge).rdropWhile isEdge).filter isInner := rfl

theorem isInner_of_not_isEdge {c : Char} (plain : isEdge c = false) : isInner c = true := by
  simp only [isInner, Bool.and_eq_true, bne_iff_ne]
  refine ⟨⟨?_, ?_⟩, ?_⟩ <;> rintro rfl <;> cases plain

/-- What counts at an end counts behind any text. -/
theorem opened_concat {c : Char} (plain : isEdge c = false) (text : List Char) :
    opened (text ++ [c]) = opened text ++ [c] := by
  have start : (text ++ [c]).dropWhile isEdge = text.dropWhile isEdge ++ [c] := by
    rw [List.dropWhile_append]
    split
    · rename_i none
      rw [List.isEmpty_iff.mp none, List.dropWhile_cons_of_neg (by simp [plain]), List.nil_append]
    · rfl
  rw [opened, start, List.filter_append, List.filter_cons_of_pos (isInner_of_not_isEdge plain)]
  rfl

/-- Nothing is taken from the end of a text that ends with what counts there. -/
theorem cleaned_concat {c : Char} (plain : isEdge c = false) (text : List Char) :
    cleaned (text ++ [c]) = opened text ++ [c] := by
  rw [← opened_concat plain, cleaned_eq, opened]
  congr 1
  refine List.rdropWhile_eq_self_iff.mpr fun nonempty => ?_
  have last : ((text ++ [c]).dropWhile isEdge).getLast nonempty = c :=
    (List.IsSuffix.getLast (List.dropWhile_suffix isEdge) nonempty).trans (by simp)
  rw [last, plain]
  exact Bool.false_ne_true

/-- What does not count at the end of a text are control characters and blanks. -/
theorem exists_opened_eq (text : List Char) :
    ∃ behind, opened text = cleaned text ++ behind ∧ ∀ c ∈ behind, isEdge c = true := by
  refine ⟨((text.dropWhile isEdge).rtakeWhile isEdge).filter isInner, ?_, fun c mem => ?_⟩
  · rw [cleaned_eq, ← List.filter_append, List.rdropWhile_append_rtakeWhile, opened]
  · exact List.mem_rtakeWhile_imp (List.mem_of_mem_filter mem)

/-- What counts at an end counts anywhere in a text. -/
theorem mem_cleaned_iff {text : List Char} {c : Char} (plain : isEdge c = false) :
    c ∈ cleaned text ↔ c ∈ text := by
  have split : text = text.takeWhile isEdge ++ ((text.dropWhile isEdge).rdropWhile isEdge ++
      (text.dropWhile isEdge).rtakeWhile isEdge) := by
    rw [List.rdropWhile_append_rtakeWhile, List.takeWhile_append_dropWhile]
  have front : c ∉ text.takeWhile isEdge := fun mem => by
    cases plain.symm.trans (List.mem_takeWhile_imp mem)
  have behind : c ∉ (text.dropWhile isEdge).rtakeWhile isEdge := fun mem => by
    cases plain.symm.trans (List.mem_rtakeWhile_imp mem)
  rw [cleaned_eq, List.mem_filter, and_iff_left (isInner_of_not_isEdge plain)]
  conv_rhs => rw [split]
  simp only [List.mem_append, front, behind, false_or, or_false]

/-! ## Schemes -/

/-- A scheme is made of letters in front of a colon. -/
theorem cutScheme?_eq_some_iff {text behind : List Char} {scheme : String} :
    cutScheme? text = some (scheme, behind) ↔ ∃ letters, text = letters ++ ':' :: behind ∧
      (∀ c ∈ letters, isSchemeCharacter c = true) ∧
      (∃ first ∈ letters.head?, first.isAlpha = true) ∧
      scheme = String.ofList (letters.map Char.toLower) := by
  constructor
  · intro cut
    unfold cutScheme? at cut
    dsimp only at cut
    split at cut
    case h_2 => cases cut
    case h_1 first behind' head colon =>
      split at cut
      · rename_i letter
        cases cut
        refine ⟨text.takeWhile isSchemeCharacter, ?_, fun c => List.mem_takeWhile_imp,
          ⟨first, head, letter⟩, rfl⟩
        rw [← colon, List.takeWhile_append_dropWhile]
      · cases cut
  · rintro ⟨letters, rfl, all, ⟨first, head, letter⟩, rfl⟩
    have front : (letters ++ ':' :: behind).takeWhile isSchemeCharacter = letters := by
      rw [List.takeWhile_append_of_pos all, List.takeWhile_cons_of_neg (by decide), List.append_nil]
    have rest : (letters ++ ':' :: behind).dropWhile isSchemeCharacter = ':' :: behind := by
      rw [List.dropWhile_append_of_pos all, List.dropWhile_cons_of_neg (by decide)]
    unfold cutScheme?
    rw [front, rest]
    dsimp only
    rw [Option.mem_def.mp head]
    exact if_pos letter

/-- What is no part of a scheme stands behind it. -/
theorem mem_iff_of_cut {text behind : List Char} {scheme : String} {c : Char}
    (cut : cutScheme? text = some (scheme, behind)) (other : isSchemeCharacter c = false)
    (noColon : c ≠ ':') : c ∈ text ↔ c ∈ behind := by
  obtain ⟨letters, rfl, all, -, -⟩ := cutScheme?_eq_some_iff.mp cut
  have front : c ∉ letters := fun mem => by cases other.symm.trans (all c mem)
  simp only [List.mem_append, List.mem_cons, front, noColon, false_or]

theorem suffix_of_cut {text behind : List Char} {scheme : String}
    (cut : cutScheme? text = some (scheme, behind)) : behind <:+ text := by
  obtain ⟨letters, rfl, -⟩ := cutScheme?_eq_some_iff.mp cut
  exact (List.suffix_cons ':' behind).trans (List.suffix_append letters _)

/-- What follows the colon of a scheme goes on behind a text, as far as no colon does. -/
theorem cutScheme?_append {text behind rest : List Char} {scheme : String}
    (cut : cutScheme? (text ++ behind) = some (scheme, rest)) (noColon : ':' ∉ behind) :
    ∃ inside, cutScheme? text = some (scheme, inside) ∧ rest = inside ++ behind := by
  obtain ⟨letters, whole, spelled⟩ := cutScheme?_eq_some_iff.mp cut
  rcases List.append_eq_append_iff.mp whole with ⟨inside, -, colon⟩ | ⟨inside, rfl, colon⟩
  · exact absurd (colon ▸ List.mem_append_right inside List.mem_cons_self) noColon
  · cases inside with
    | nil =>
        rw [List.nil_append] at colon
        exact absurd (colon ▸ List.mem_cons_self) noColon
    | cons c inside =>
        obtain ⟨rfl, rfl⟩ := List.cons.inj colon
        exact ⟨inside, cutScheme?_eq_some_iff.mpr ⟨letters, rfl, spelled⟩, rfl⟩

end WebAddress

/-! ## Authorities -/

section

variable {text : List Char}

theorem cutHost_suffix (inBrackets : Bool) (text : List Char) :
    (cutHost inBrackets text).2 <:+ text := by
  induction text generalizing inBrackets with
  | nil => exact List.suffix_rfl
  | cons c rest ih =>
      rw [cutHost]
      split
      · exact List.suffix_rfl
      · exact (ih _).trans (List.suffix_cons c rest)

/-- What stands behind a port begins with a backslash. -/
theorem readPort_behind {scheme : String} {port? : Option Nat} {behind : List Char}
    (found : readPort scheme text = .ok (port?, behind)) (noBackslash : '\\' ∉ text) :
    behind = [] := by
  have rest : text.dropWhile Char.isDigit = [] := by
    unfold readPort at found
    dsimp only at found
    cases left : text.dropWhile Char.isDigit with
    | nil => rfl
    | cons c others =>
        have mem : c ∈ text :=
          (List.dropWhile_sublist Char.isDigit).subset (left ▸ List.mem_cons_self)
        have other : (c != '\\') = true := bne_iff_ne.mpr fun same => noBackslash (same ▸ mem)
        rw [left] at found
        simp [other] at found
  unfold readPort at found
  dsimp only at found
  rw [rest] at found
  split at found
  · cases found
  · simp at found
    split at found <;> cases found <;> rfl

end

namespace Authority

variable {scheme : String} {text : List Char}

/-- What stands behind the user part is a part of the text. -/
theorem mem_of_mem_cutUser {c : Char} (mem : c ∈ (cutUser text).2) : c ∈ text := by
  unfold cutUser Text.cutAt at mem
  split at mem
  case h_1 => exact mem
  case h_2 behind before cut =>
    split at cut
    · cases cut
    · cases cut
      rw [List.mem_reverse] at mem
      exact List.mem_reverse.mp ((List.takeWhile_sublist _).subset mem)

/-- The web needs a host, so it does not matter there whether anything stands behind the text of an
authority. -/
theorem read_atEnd (host : isHostScheme scheme = true) (atEnd other : Bool) :
    read scheme atEnd text = read scheme other text := by
  unfold read
  dsimp only
  rw [host]
  cases rest : (cutUser text).2 with
  | nil => simp [cutHost]
  | cons c others => simp

/-- Without a backslash an authority goes on to the end of its text. -/
theorem behind_of_read {atEnd : Bool} {authority : Authority} {behind : List Char}
    (found : read scheme atEnd text = .ok (authority, behind)) (noBackslash : '\\' ∉ text) :
    behind = [] := by
  unfold read at found
  dsimp only at found
  split at found
  · cases found
  split at found
  · cases found
  split at found
  · cases found
  split at found
  · cases found
  rename_i port? left port
  cases found
  refine readPort_behind port fun mem => noBackslash ?_
  exact mem_of_mem_cutUser ((cutHost_suffix false _).subset (List.mem_of_mem_drop mem))

end Authority

/-! ## Addresses over the web -/

namespace WebAddress

/-- What an authority is read from: slashes in front of it do not matter. -/
def namedAuthority (main : List Char) : List Char :=
  (main.dropWhile (isSlash true)).takeWhile (!isSlash true ·)

/-- What a path is read from, from the slash in front of it on. -/
def namedPath (main : List Char) : List Char :=
  (main.dropWhile (isSlash true)).dropWhile (!isSlash true ·)

theorem namedPath_suffix (main : List Char) : namedPath main <:+ main :=
  (List.dropWhile_suffix _).trans (List.dropWhile_suffix _)

theorem isSlash_of_namedPath {main path : List Char} {c : Char}
    (named : namedPath main = c :: path) : isSlash true c = true := by
  have head := List.head?_dropWhile_not (!isSlash true ·) (main.dropWhile (isSlash true))
  rw [show (main.dropWhile (isSlash true)).dropWhile (!isSlash true ·) = c :: path from named]
    at head
  simpa using head

/-- Without a path all that is no slash at the start is an authority. -/
theorem not_isSlash_of_namedPath {main : List Char} (none : namedPath main = []) :
    ∀ c ∈ main.dropWhile (isSlash true), isSlash true c = false := fun c mem => by
  simpa using List.dropWhile_eq_nil_iff.mp none c mem

/-- A slash behind an authority belongs to the path. -/
theorem named_concat_slash {main : List Char} (hosted : main.dropWhile (isSlash true) ≠ []) :
    namedAuthority (main ++ ['/']) = namedAuthority main ∧
      namedPath (main ++ ['/']) = namedPath main ++ ['/'] := by
  have start : (main ++ ['/']).dropWhile (isSlash true) =
      main.dropWhile (isSlash true) ++ ['/'] := by
    rw [List.dropWhile_append, if_neg (by simpa using hosted)]
  unfold namedAuthority namedPath
  rw [start]
  constructor
  · rw [List.takeWhile_append]
    split
    · rename_i all
      rw [(List.takeWhile_prefix _).eq_of_length all]
      exact List.append_nil _
    · rfl
  · rw [List.dropWhile_append]
    split
    · rename_i none
      rw [List.isEmpty_iff.mp none]
      rfl
    · rfl

/-- Slashes alone name no authority. -/
theorem read_namedAuthority_of_slashes {scheme : String} {main : List Char}
    (host : isHostScheme scheme = true) (none : main.dropWhile (isSlash true) = []) :
    Authority.read scheme true (namedAuthority main) = .error .emptyHost := by
  rw [namedAuthority, none, List.takeWhile_nil]
  simp [Authority.read, cutUser, Text.cutAt, cutHost, host]

theorem scheme_of_readFile {parts : AddressParts} {address : WebAddress}
    (found : readFile parts = .ok address) : address.scheme = "file" := by
  unfold readFile at found
  grind [fileAddress, withParts]

theorem scheme_of_readAuthority {scheme : String} {parts : AddressParts} {address : WebAddress}
    (found : readAuthority scheme parts = .ok address) : address.scheme = scheme := by
  unfold readAuthority at found
  dsimp only at found
  split at found
  · cases found
  · cases found
    rfl

theorem exists_cut_of_read {text : String} {address : WebAddress}
    (found : read text = .ok address) :
    ∃ behind, cutScheme? (cleaned text.toList) = some (address.scheme, behind) := by
  unfold read at found
  split at found
  case h_1 => cases found
  case h_2 scheme behind cut =>
    suffices same : address.scheme = scheme by exact ⟨behind, same ▸ cut⟩
    dsimp only at found
    split at found
    · rename_i file
      exact (scheme_of_readFile found).trans file.symm
    split at found
    · exact scheme_of_readAuthority found
    split at found
    · exact scheme_of_readAuthority found
    · cases found
      rfl
    · cases found
      rfl

theorem isHostScheme_of_web {scheme : String} (web : scheme = "http" ∨ scheme = "https") :
    isHostScheme scheme = true := by
  rcases web with rfl | rfl <;> decide

/-- What the authority of an address over the web is read from, behind its scheme. -/
def authorityBehind (behind : List Char) : List Char :=
  namedAuthority (AddressParts.ofText behind).main

/-- What the segments of an address over the web are read from, behind its scheme. -/
def pathBehind (behind : List Char) : List Char :=
  withoutSlash true (namedPath (AddressParts.ofText behind).main)

/-- **An address over the web is read from its authority and its path**, each on its own. -/
theorem read_of_cut {text scheme : String} {behind : List Char}
    (cut : cutScheme? (cleaned text.toList) = some (scheme, behind))
    (web : scheme = "http" ∨ scheme = "https") :
    read text = (Authority.read scheme true (authorityBehind behind)).map fun found =>
      withParts (AddressParts.ofText behind) scheme (some found.1)
        (.segments (readSegments true (pathBehind behind))) := by
  have host := isHostScheme_of_web web
  have noFile : scheme ≠ "file" := by rcases web with rfl | rfl <;> decide
  unfold read
  rw [cut]
  dsimp only
  rw [if_neg noFile, if_pos host]
  unfold readAuthority
  dsimp only
  rw [host, Authority.read_atEnd host _ true]
  have noBackslash : '\\' ∉ authorityBehind behind := fun mem => by
    cases List.mem_takeWhile_imp mem
  rw [show ((AddressParts.ofText behind).main.dropWhile (isSlash true)).takeWhile
    (!isSlash true ·) = authorityBehind behind from rfl]
  cases result : Authority.read scheme true (authorityBehind behind) with
  | error e => rfl
  | ok found =>
      obtain ⟨authority, rest⟩ := found
      obtain rfl := Authority.behind_of_read result noBackslash
      simp [Except.map, withParts, pathBehind, namedPath]

end WebAddress

end PatternRefinement
