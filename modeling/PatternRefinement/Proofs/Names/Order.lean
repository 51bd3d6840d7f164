import PatternRefinement.Proofs.Names
import PatternRefinement.Proofs.Text.Items

/-!
# The order of the names in a text

## Main Definitions

* `commaParts` — the parts of a text between its commas
* `firstPlace` — where a name stands first among them

## Main Statements

* `mem_splitNames_iff_part` — names are the trimmed parts that are not blank
* `splitNames_append` — of the names behind a comma only the new ones are added
* `splitNames_lists_once` — each name is listed once, in the order of the first places

## Design Notes

Which of two names comes first is decided among the parts that are names.  Places are counted among
all parts, blank ones too: leaving these out changes the places, but not their order.
-/

namespace PatternRefinement

open Text (Blank Item items trimmed)

/-- The parts of a text between its commas. -/
def commaParts (text : String) : List String :=
  (text.toList.splitOn ',').map String.ofList

/-- The place of the first part of a text that is a given name once it is trimmed. -/
def firstPlace (text : String) (name : PatternName) : Nat :=
  ((commaParts text).map trimmed).idxOf name

variable {text : String} {name : PatternName}

theorem isBlank_comma : Text.isBlank ',' = false := by decide

/-! ## Names and items -/

theorem splitNames_eq_eraseDups (text : String) :
    splitNames text = (items ',' text).eraseDups := rfl

/-- Items are the trimmed parts, without the blank ones. -/
theorem items_eq_filter (text : String) :
    items ',' text = ((commaParts text).map trimmed).filter (!·.isEmpty) := by
  have spelled : trimmed ∘ String.ofList = String.ofList ∘ Text.trim := by
    funext part
    rw [Function.comp_apply, trimmed, String.toList_ofList, Function.comp_apply]
  have empty : (fun part : String => !part.isEmpty) ∘ String.ofList = (!·.isEmpty) := by
    funext letters
    cases letters <;> simp
  have kept (parts : List (List Char)) : (parts.filter (!·.isEmpty)).map String.ofList =
      (parts.map String.ofList).filter (!·.isEmpty) := by
    rw [List.filter_map, empty]
  rw [items, Text.listed, kept, commaParts, List.map_map, List.map_map, spelled]

theorem item_of_mem_splitNames (mem : name ∈ splitNames text) : Item ',' name :=
  Text.item_of_mem_items (List.mem_eraseDups.mp mem)

/-- **Names are the trimmed parts that are not blank.** -/
theorem mem_splitNames_iff_part :
    name ∈ splitNames text ↔ ∃ part ∈ commaParts text, ¬ Blank part ∧ trimmed part = name := by
  rw [splitNames_eq_eraseDups, List.mem_eraseDups, items_eq_filter, List.mem_filter, List.mem_map,
    Bool.not_eq_true']
  constructor
  · rintro ⟨⟨part, mem, rfl⟩, nonempty⟩
    refine ⟨part, mem, fun blank => ?_, rfl⟩
    cases nonempty.symm.trans (Text.isEmpty_trimmed_iff.mpr blank)
  · rintro ⟨part, mem, notBlank, rfl⟩
    refine ⟨⟨part, mem, rfl⟩, ?_⟩
    rw [Bool.eq_false_iff]
    exact fun empty => notBlank (Text.isEmpty_trimmed_iff.mp empty)

/-! ## Order -/

/-- Names stand in the order of the places where each of them stands first. -/
theorem pairwise_firstPlace (text : String) : (splitNames text).Pairwise fun name other =>
    firstPlace text name < firstPlace text other := by
  have ordered := (firstOccurrences_eraseDups (items ',' text)).ordered
  rw [← splitNames_eq_eraseDups] at ordered
  have kept {name : PatternName} (mem : name ∈ splitNames text) : (!name.isEmpty) = true := by
    rw [Bool.not_eq_true', Bool.eq_false_iff]
    exact fun empty => (item_of_mem_splitNames mem).nonempty (String.isEmpty_iff.mp empty)
  refine ordered.imp_of_mem fun first second less => ?_
  rw [items_eq_filter] at less
  refine (idxOf_filter_lt_iff ?_ ?_).mp less
  · exact kept first
  · exact kept second

/-! ## Texts put together -/

/-- **Of the names behind a comma only the new ones are added.** -/
theorem splitNames_append (front behind : String) : splitNames (front ++ "," ++ behind) =
    splitNames front ++ (splitNames behind).filter (!(splitNames front).contains ·) := by
  rw [splitNames_eq_eraseDups, Text.items_append rfl, eraseDups_append_filter]
  rfl

/-- Names that are written down with commas between them are read again. -/
theorem splitNames_intercalate (text : String) :
    splitNames (",".intercalate (splitNames text)) = splitNames text := by
  have read : items ',' (",".intercalate (splitNames text)) = splitNames text :=
    Text.items_of_listing rfl isBlank_comma (fun _ => item_of_mem_splitNames)
      (Text.listing_self _)
  rw [splitNames_eq_eraseDups, read, eraseDups_of_nodup (nodup_splitNames text)]

/-- **Each name is listed once, in the order of the first places.**  The names of a text are the
trimmed parts between its commas that are not blank, each of them once and where it stands first;
they are read again from a text that lists nothing else, and a text that goes on behind a comma adds
the names that are new. -/
theorem splitNames_lists_once (text : String) :
    (splitNames text).Nodup ∧
    (∀ name ∈ splitNames text, Item ',' name) ∧
    (∀ name, name ∈ splitNames text ↔
      ∃ part ∈ commaParts text, ¬ Blank part ∧ trimmed part = name) ∧
    ((splitNames text).Pairwise fun name other => firstPlace text name < firstPlace text other) ∧
    splitNames (",".intercalate (splitNames text)) = splitNames text ∧
    ∀ behind, splitNames (text ++ "," ++ behind) =
      splitNames text ++ (splitNames behind).filter (!(splitNames text).contains ·) := by
  refine ⟨nodup_splitNames text, fun name mem => ?_, fun name => ?_, ?_, ?_, fun behind => ?_⟩
  · exact item_of_mem_splitNames mem
  · exact mem_splitNames_iff_part
  · exact pairwise_firstPlace text
  · exact splitNames_intercalate text
  · exact splitNames_append text behind

/-- A name is repeated if it is so once the blanks around it are gone. -/
example : splitNames "b, a\u2003,, b ,c" = ["b", "a", "c"] := by decide +kernel

end PatternRefinement
