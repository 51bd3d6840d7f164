import Mathlib.Data.List.TakeWhile
import PatternRefinement.Text.Reader

/-!
# Splitting a text

## Main Statements

* `eq_false_of_mem_splitOnP` — no part of a text that is split holds a separator
* `splitOn_intercalate` — a text that was put together from items is split into these items
* `cutAt_append`, `cutAt_of_not_mem` — a text is cut at the first mark that it holds, if any
-/

namespace PatternRefinement.Text

/-- No part of a text that is split holds a separator. -/
theorem eq_false_of_mem_splitOnP {separates : Char → Bool} {text part : List Char}
    (mem : part ∈ text.splitOnP separates) : ∀ c ∈ part, separates c = false := by
  induction text generalizing part with
  | nil =>
      rw [List.splitOnP_nil, List.mem_singleton] at mem
      simp [mem]
  | cons first rest ih =>
      rw [List.splitOnP_cons_eq_if_modifyHead] at mem
      split at mem
      · rcases List.mem_cons.mp mem with rfl | behind
        · simp
        · exact ih behind
      · rename_i other
        obtain ⟨head, parts, split⟩ := List.exists_cons_of_ne_nil
          (List.splitOnP_ne_nil separates rest)
        rw [split] at ih mem
        rcases List.mem_cons.mp mem with rfl | behind
        · intro c inside
          rcases List.mem_cons.mp inside with rfl | later
          · simpa using other
          · exact ih List.mem_cons_self c later
        · exact ih (List.mem_cons_of_mem head behind)

/-- A text that was put together from items is split into these items. -/
theorem splitOn_intercalate {separator : String} {c : Char} (single : separator.toList = [c])
    {items : List String} (nonempty : items ≠ []) (whole : ∀ item ∈ items, c ∉ item.toList) :
    (separator.intercalate items).toList.splitOn c = items.map String.toList := by
  rw [String.toList_intercalate, single]
  refine List.splitOn_intercalate c (fun letters mem => ?_) ?_
  · obtain ⟨item, inside, rfl⟩ := List.mem_map.mp mem
    exact whole item inside
  · exact fun empty => nonempty (List.map_eq_nil_iff.mp empty)

/-- A text is cut at the first mark that it holds. -/
theorem cutAt_append {mark : Char} {front : List Char} (apart : mark ∉ front)
    (behind : List Char) : cutAt mark (front ++ mark :: behind) = (front, some behind) := by
  have inside : ∀ c ∈ front, (c != mark) = true := by
    intro c mem
    rw [bne_iff_ne]
    rintro rfl
    exact apart mem
  have rest : (front ++ mark :: behind).dropWhile (· != mark) = mark :: behind := by
    rw [List.dropWhile_append_of_pos inside, List.dropWhile_cons_of_neg (by simp)]
  rw [cutAt, rest]
  dsimp only
  rw [List.takeWhile_append_of_pos inside, List.takeWhile_cons_of_neg (by simp), List.append_nil]

/-- A text without the mark is not cut. -/
theorem cutAt_of_not_mem {mark : Char} {text : List Char} (unmarked : mark ∉ text) :
    cutAt mark text = (text, none) := by
  have nothing : text.dropWhile (· != mark) = [] := by
    rw [List.dropWhile_eq_nil_iff]
    intro c mem
    rw [bne_iff_ne]
    rintro rfl
    exact unmarked mem
  rw [cutAt, nothing]

end PatternRefinement.Text
