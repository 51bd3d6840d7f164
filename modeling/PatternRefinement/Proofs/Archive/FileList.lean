import PatternRefinement.Archive
import PatternRefinement.Proofs.Text.Items

/-!
# The files that a header lists

## Main Statements

* `splitFiles_reads_listings` — files are read as any service lists them

## Design Notes

What can be listed is told apart from what a service writes.  A name with a semicolon in it, or with
a blank at one of its ends, cannot be listed at all; every other one can, in any order and as often
as the service likes.
-/

namespace PatternRefinement

open Text (Item Listing)

theorem splitFiles_eq_items (header : String) : splitFiles header = Text.items ';' header := rfl

theorem isBlank_semicolon : Text.isBlank ';' = false := by decide

/-- **Files are read as any service lists them.**  Names with any blanks around them, and with blank
parts anywhere, are read back in their order; what stands on both sides of a semicolon is read
apart; and only names that can be listed are ever read, so that they are read again from a header
that lists nothing else. -/
theorem splitFiles_reads_listings :
    (∀ names parts, (∀ name ∈ names, Item ';' name) → Listing names parts →
      splitFiles (";".intercalate parts) = names) ∧
    (∀ front behind, splitFiles (front ++ ";" ++ behind) = splitFiles front ++ splitFiles behind) ∧
    ∀ header, (∀ name ∈ splitFiles header, Item ';' name) ∧
      splitFiles (";".intercalate (splitFiles header)) = splitFiles header := by
  refine ⟨fun names parts fits lists => ?_, fun front behind => ?_,
    fun header => ⟨fun name mem => ?_, ?_⟩⟩
  · rw [splitFiles_eq_items]
    exact Text.items_of_listing rfl isBlank_semicolon fits lists
  · exact Text.items_append rfl front behind
  · exact Text.item_of_mem_items mem
  · simp only [splitFiles_eq_items]
    exact Text.items_intercalate_items rfl isBlank_semicolon header

/-- Blanks need not be in ASCII, and an empty part is blank. -/
example : splitFiles "\u2003a b.mch\t;;\u00A0; c" = ["a b.mch", "c"] := by decide +kernel

end PatternRefinement
