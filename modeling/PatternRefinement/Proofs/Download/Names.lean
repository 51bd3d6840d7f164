import PatternRefinement.Download
import PatternRefinement.Proofs.FileTree.Path
import PatternRefinement.Proofs.Text.Blank
import PatternRefinement.Proofs.Text.Digits
import PatternRefinement.Proofs.Text.Split

/-!
# The names of archives

Whatever the service calls an archive, every name that the archive has on its way into the directory
is one component of a path, so it cannot lead out of the directory.

## Main Definitions

* `Download.behindSlash` — what stands behind the last slash of a text

## Main Statements

* `Download.component_safeName` — the name that is left of what the service says
* `Download.component_stagingName` — the name while the archive is written
* `Download.component_candidate` — every name that it may get
-/

namespace PatternRefinement.Download

open PatternRefinement.Path (Component)

/-! ## Behind the last slash -/

/-- The two slashes that separate directories. -/
def isSlash (c : Char) : Bool := c == '/' || c == '\\'

/-- What stands behind the last slash of a text. -/
def behindSlash (text : List Char) : List Char := (text.splitOnP isSlash).getLast?.getD []

theorem safeName_eq (raw : String) : safeName raw =
    let name := String.ofList (Text.trim (behindSlash raw.toList))
    if name = "" ∨ name = "." ∨ name = ".." then Disposition.defaultArchiveName else name := rfl

theorem behindSlash_of_whole {text : List Char} (whole : ∀ c ∈ text, isSlash c = false) :
    behindSlash text = text := by
  rw [behindSlash, List.splitOnP_eq_singleton whole]
  rfl

theorem not_isSlash_of_mem_behindSlash {text : List Char} {c : Char} (mem : c ∈ behindSlash text) :
    isSlash c = false := by
  unfold behindSlash at mem
  cases last : (text.splitOnP isSlash).getLast? with
  | none =>
      rw [last] at mem
      cases mem
  | some part =>
      rw [last] at mem
      exact Text.eq_false_of_mem_splitOnP (List.mem_of_getLast? last) c mem

/-- No slash is left of a text that is cut behind the last one. -/
theorem not_isSlash_of_mem_trim {text : List Char} {c : Char}
    (mem : c ∈ Text.trim (behindSlash text)) : isSlash c = false :=
  not_isSlash_of_mem_behindSlash (Text.mem_of_mem_trim mem)

/-! ## Names on the way into the directory -/

theorem component_safeName (raw : String) : Component (safeName raw) := by
  rw [safeName_eq]
  dsimp only
  split
  · exact ⟨by decide, by decide, by decide, by decide⟩
  rename_i usable
  obtain ⟨ne_empty, ne_dot, ne_dots⟩ := by simpa only [not_or] using usable
  refine ⟨ne_empty, fun slash => ?_, ne_dot, ne_dots⟩
  rw [String.toList_ofList] at slash
  cases not_isSlash_of_mem_trim slash

variable {name : String}

theorem component_stagingName (component : Component name) : Component (stagingName name) := by
  have toList : (stagingName name).toList = '.' :: (name.toList ++ ['.', 'p', 'a', 'r', 't']) := by
    simp [stagingName]
  have other {text : String} (short : text.toList.length ≤ 2) : stagingName name ≠ text := by
    rintro rfl
    rw [toList] at short
    simp at short
  refine ⟨other (by decide), ?_, other (by decide), other (by decide)⟩
  rw [toList]
  simp [component.noSlash]

/-- A name with a bracket in it is none of the names that lead elsewhere. -/
theorem component_of_bracket (bracket : '(' ∈ name.toList) (noSlash : '/' ∉ name.toList) :
    Component name := by
  refine ⟨?_, noSlash, ?_, ?_⟩
  all_goals
    rintro rfl
    revert bracket
    decide

/-- The parts of a name hold nothing but characters of the name. -/
theorem mem_of_splitExtension {stem : String} {extension? : Option String}
    (split : splitExtension name = (stem, extension?)) :
    stem.toList ⊆ name.toList ∧ ∀ extension ∈ extension?, extension.toList ⊆ name.toList := by
  unfold splitExtension at split
  dsimp only at split
  split at split
  · rename_i point first rest behind
    obtain ⟨rfl, rfl⟩ := Prod.mk.inj split
    have dropped : point :: first :: rest ⊆ name.toList.reverse :=
      behind ▸ (List.dropWhile_sublist _).subset
    constructor
    · intro c mem
      rw [String.toList_ofList, List.mem_reverse] at mem
      exact List.mem_reverse.mp (dropped (List.mem_cons_of_mem point mem))
    · rintro extension ⟨⟩ c mem
      rw [String.toList_ofList, List.mem_reverse] at mem
      exact List.mem_reverse.mp ((List.takeWhile_sublist _).subset mem)
  · obtain ⟨rfl, rfl⟩ := Prod.mk.inj split
    exact ⟨fun _ => id, nofun⟩

theorem not_mem_decimal {c : Char} (other : c.isDigit = false) (n : Nat) :
    c ∉ (Text.decimal n).toList := by
  rw [Text.decimal, String.toList_ofList]
  intro mem
  exact absurd (other.symm.trans (Text.isDigit_of_mem_toDigits mem)) Bool.false_ne_true

theorem component_candidate (component : Component name) (attempt : Nat) :
    Component (candidate name attempt) := by
  have noDigitSlash : '/' ∉ (Text.decimal attempt).toList := not_mem_decimal rfl attempt
  unfold candidate
  split
  · exact component
  · rename_i stem extension _ split
    obtain ⟨front, behind⟩ := mem_of_splitExtension split
    have inStem : '/' ∉ stem.toList := fun mem => component.noSlash (front mem)
    have inExtension : '/' ∉ extension.toList :=
      fun mem => component.noSlash (behind extension rfl mem)
    exact component_of_bracket (by simp) (by simp [noDigitSlash, inStem, inExtension])
  · rename_i stem _ split
    have inStem : '/' ∉ stem.toList :=
      fun mem => component.noSlash ((mem_of_splitExtension split).1 mem)
    exact component_of_bracket (by simp) (by simp [noDigitSlash, inStem])

theorem component_of_mem_candidates (component : Component name) {tried : String}
    (mem : tried ∈ candidates name) : Component tried := by
  obtain ⟨attempt, -, rfl⟩ := List.mem_map.mp mem
  exact component_candidate component attempt

end PatternRefinement.Download
