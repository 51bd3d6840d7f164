import Mathlib.Data.List.DropRight
import Mathlib.Data.List.TakeWhile
import PatternRefinement.Text.Blank

/-!
# Trimming

## Main Statements

* `trim_eq_nil_iff` — trimming leaves nothing of a text exactly when all of it is blank
* `trim_eq_self_iff` — trimming leaves a text as it is exactly when no blank is at its ends
* `trim_trim` — trimming once is enough
* `trim_padded` — blanks around a text do not matter
-/

namespace PatternRefinement.Text

/-- Trimming only takes away. -/
theorem mem_of_mem_trim {text : List Char} {c : Char} (mem : c ∈ trim text) : c ∈ text := by
  rw [trim, trimEnd, List.mem_reverse] at mem
  have kept := (List.dropWhile_sublist _).subset mem
  exact (List.dropWhile_sublist _).subset (List.mem_reverse.mp kept)

theorem trim_eq_nil_iff {text : List Char} : trim text = [] ↔ ∀ c ∈ text, isBlank c = true := by
  rw [trim, trimEnd, trimStart, List.reverse_eq_nil_iff, List.dropWhile_eq_nil_iff]
  constructor
  · intro all
    refine List.dropWhile_eq_nil_iff.mp ?_
    -- What is left begins with a character that is not blank, if anything is left.
    cases left : text.dropWhile isBlank with
    | nil => rfl
    | cons c rest =>
        have blank := all c (by rw [left]; exact List.mem_reverse.mpr List.mem_cons_self)
        have kept : isBlank c = false := by
          have head := List.head?_dropWhile_not isBlank text
          rw [left] at head
          simpa using head
        exact absurd (kept.symm.trans blank) Bool.false_ne_true
  · intro all
    rw [List.dropWhile_eq_nil_iff.mpr all]
    exact nofun

theorem isEmpty_trimmed_iff {text : String} :
    (trimmed text).isEmpty = true ↔ ∀ c ∈ text.toList, isBlank c = true := by
  rw [trimmed, String.isEmpty_iff, ← trim_eq_nil_iff]
  exact String.ofList_eq_empty_iff

/-! ## Trimmed texts -/

theorem trimStart_eq_self_iff {text : List Char} :
    trimStart text = text ↔ ∀ c ∈ text.head?, isBlank c = false := by
  rw [trimStart, List.dropWhile_eq_self_iff]
  cases text <;> simp

theorem trimEnd_eq_self_iff {text : List Char} :
    trimEnd text = text ↔ ∀ c ∈ text.getLast?, isBlank c = false := by
  rw [show trimEnd text = text.rdropWhile isBlank from rfl, List.rdropWhile_eq_self_iff]
  rcases List.eq_nil_or_concat text with rfl | ⟨front, last, rfl⟩ <;> simp

/-- A text is left as it is exactly when it neither begins nor ends with a blank. -/
theorem trim_eq_self_iff {text : List Char} : trim text = text ↔
    (∀ c ∈ text.head?, isBlank c = false) ∧ ∀ c ∈ text.getLast?, isBlank c = false := by
  rw [← trimStart_eq_self_iff, ← trimEnd_eq_self_iff]
  constructor
  · intro same
    have short : (trimEnd (trimStart text)).Sublist (trimStart text) :=
      (List.rdropWhile_prefix isBlank (trimStart text)).sublist
    rw [← trim, same] at short
    have start : trimStart text = text := (List.dropWhile_sublist isBlank).antisymm short
    rw [trim, start] at same
    exact ⟨start, same⟩
  · rintro ⟨start, done⟩
    rw [trim, start, done]

/-- A text that begins and ends like trimmed ones is trimmed. -/
theorem trim_eq_self_of_ends {text front behind : List Char} (begins : trim front = front)
    (first : text.head? = front.head?) (ends : trim behind = behind)
    (last : text.getLast? = behind.getLast?) : trim text = text := by
  rw [trim_eq_self_iff, first, last]
  exact ⟨(trim_eq_self_iff.mp begins).1, (trim_eq_self_iff.mp ends).2⟩

/-- **Trimming once is enough.** -/
theorem trim_trim (text : List Char) : trim (trim text) = trim text := by
  refine trim_eq_self_iff.mpr ⟨fun c first => ?_, fun c last => ?_⟩
  · -- What is trimmed at its end still begins in the same way, if anything is left.
    have front : trim text <+: trimStart text := List.rdropWhile_prefix isBlank _
    obtain ⟨behind, same⟩ := front
    have begins := List.head?_dropWhile_not isBlank text
    rw [← trimStart, ← same, List.head?_append, Option.mem_def.mp first] at begins
    simpa using begins
  · have ends : trimEnd (trim text) = trim text := List.rdropWhile_idempotent isBlank _
    exact trimEnd_eq_self_iff.mp ends c last

/-! ## Blanks around a text -/

theorem trim_blank_append {front : List Char} (blank : ∀ c ∈ front, isBlank c = true)
    (text : List Char) : trim (front ++ text) = trim text := by
  rw [trim, trim, trimStart, trimStart, List.dropWhile_append_of_pos blank]

theorem trim_append_blank {behind : List Char} (blank : ∀ c ∈ behind, isBlank c = true)
    (text : List Char) : trim (text ++ behind) = trim text := by
  by_cases all : ∀ c ∈ text, isBlank c = true
  · have whole : ∀ c ∈ text ++ behind, isBlank c = true := fun c mem =>
      (List.mem_append.mp mem).elim (all c) (blank c)
    rw [trim_eq_nil_iff.mpr all, trim_eq_nil_iff.mpr whole]
  · -- What the text begins with is left, so the blanks at its end are not reached from there.
    have left : (text.dropWhile isBlank).isEmpty = false := by
      rw [List.isEmpty_eq_false_iff]
      exact fun none => all (List.dropWhile_eq_nil_iff.mp none)
    have start : trimStart (text ++ behind) = trimStart text ++ behind := by
      rw [trimStart, List.dropWhile_append, left]
      rfl
    rw [trim, trim, start, trimEnd, trimEnd, List.reverse_append,
      List.dropWhile_append_of_pos fun c mem => blank c (List.mem_reverse.mp mem)]

/-- **Blanks around a text do not matter.** -/
theorem trim_padded {front behind : List Char} (before : ∀ c ∈ front, isBlank c = true)
    (text : List Char) (after : ∀ c ∈ behind, isBlank c = true) :
    trim (front ++ (text ++ behind)) = trim text := by
  rw [trim_blank_append before, trim_append_blank after]

end PatternRefinement.Text
