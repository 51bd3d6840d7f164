import PatternRefinement.Proofs.Text.Blank
import PatternRefinement.Proofs.Text.Split

/-!
# Items in a text

A text lists items with a mark between them.  A writer may put blanks around the items and blank
parts between them, and the items are read back.

## Main Definitions

* `items` — the items that a text lists
* `Item` — what a text can list
* `Listing` — the parts that a writer may put between marks to list some items

## Main Statements

* `items_append` — what stands on both sides of a mark is listed apart
* `item_of_mem_items` — nothing else is listed than what can be
* `items_of_listing` — items are read back as they were listed

## Design Notes

A blank is never a mark.  So what a writer puts around an item does not divide the text any further,
and a text is divided by the marks between the parts only.
-/

namespace PatternRefinement.Text

/-- What is listed by the parts of a text: each one trimmed, and blank ones are nothing. -/
def listed (parts : List (List Char)) : List String :=
  ((parts.map trim).filter (!·.isEmpty)).map String.ofList

/-- The items between the marks of a text. -/
def items (mark : Char) (text : String) : List String :=
  listed (text.toList.splitOn mark)

/-- What a text can list: something without a mark in it and without a blank at its ends. -/
structure Item (mark : Char) (item : String) : Prop where
  nonempty : item ≠ ""
  trimmed : trimmed item = item
  whole : mark ∉ item.toList

/-- A text of blanks only, if of anything. -/
def Blank (text : String) : Prop :=
  ∀ c ∈ text.toList, isBlank c = true

instance (text : String) : Decidable (Blank text) :=
  List.decidableBAll (isBlank · = true) text.toList

/-- The parts that list items in order: every item has a part, with any blanks around it, and all
other parts are blank. -/
inductive Listing : List String → List String → Prop
  | nil : Listing [] []
  | blank {part : String} {items parts : List String} (blank : Blank part)
      (rest : Listing items parts) : Listing items (part :: parts)
  | item {front behind item : String} {items parts : List String} (before : Blank front)
      (after : Blank behind) (rest : Listing items parts) :
      Listing (item :: items) ((front ++ item ++ behind) :: parts)

variable {mark : Char} {parts listing : List String}

/-! ## Parts -/

theorem listed_append (parts others : List (List Char)) :
    listed (parts ++ others) = listed parts ++ listed others := by
  simp only [listed, List.map_append, List.filter_append]

theorem listed_cons (part : List Char) (parts : List (List Char)) :
    listed (part :: parts) = listed [part] ++ listed parts :=
  listed_append [part] parts

theorem listed_blank {part : List Char} (blank : ∀ c ∈ part, isBlank c = true) :
    listed [part] = [] := by
  simp [listed, trim_eq_nil_iff.mpr blank]

/-- An item is listed by a part that it is left of. -/
theorem listed_of_trim {part : List Char} {item : String} (left : trim part = item.toList)
    (nonempty : item ≠ "") : listed [part] = [item] := by
  have kept : item.toList.isEmpty = false := by
    rw [List.isEmpty_eq_false_iff]
    exact fun none => nonempty (String.toList_eq_nil_iff.mp none)
  simp [listed, left, kept]

/-- An item is left of a part with any blanks around it. -/
theorem Item.trim_padded {front behind item : String} (fits : Item mark item)
    (before : Blank front) (after : Blank behind) :
    trim (front ++ item ++ behind).toList = item.toList := by
  have left : trim item.toList = item.toList := by
    rw [← String.toList_ofList (l := trim item.toList)]
    exact congrArg String.toList fits.trimmed
  rw [String.toList_append, String.toList_append, List.append_assoc,
    Text.trim_padded before _ after, left]

/-! ## Texts -/

/-- **What stands on both sides of a mark is listed apart.** -/
theorem items_append {separator : String} (single : separator.toList = [mark])
    (front behind : String) :
    items mark (front ++ separator ++ behind) = items mark front ++ items mark behind := by
  rw [items, String.toList_append, String.toList_append, single, List.append_assoc,
    List.singleton_append, List.splitOn_append_cons_self, listed_append]
  rfl

/-- **Nothing else is listed than what can be.** -/
theorem item_of_mem_items {text item : String} (mem : item ∈ items mark text) : Item mark item := by
  obtain ⟨letters, kept, rfl⟩ := List.mem_map.mp mem
  obtain ⟨inside, nonempty⟩ := List.mem_filter.mp kept
  obtain ⟨part, piece, rfl⟩ := List.mem_map.mp inside
  refine ⟨fun empty => ?_, ?_, fun divided => ?_⟩
  · rw [String.ofList_eq_empty_iff.mp empty] at nonempty
    cases nonempty
  · rw [Text.trimmed, String.toList_ofList, trim_trim]
  · rw [String.toList_ofList] at divided
    simpa using eq_false_of_mem_splitOnP piece mark (mem_of_mem_trim divided)

/-- Items list themselves. -/
theorem listing_self (listing : List String) : Listing listing listing := by
  induction listing with
  | nil => exact .nil
  | cons item rest ih =>
      have part : Listing (item :: rest) (("" ++ item ++ "") :: rest) := .item nofun nofun ih
      rwa [String.empty_append, String.append_empty] at part

/-- No part that lists an item is divided by a mark. -/
theorem Listing.whole (lists : Listing listing parts) (other : isBlank mark = false)
    (fits : ∀ item ∈ listing, Item mark item) : ∀ part ∈ parts, mark ∉ part.toList := by
  have outside {text : String} (blank : Blank text) : mark ∉ text.toList := fun mem => by
    cases other.symm.trans (blank mark mem)
  induction lists with
  | nil => exact nofun
  | blank blank _ ih => exact List.forall_mem_cons.mpr ⟨outside blank, ih fits⟩
  | item before after _ ih =>
      obtain ⟨first, others⟩ := List.forall_mem_cons.mp fits
      refine List.forall_mem_cons.mpr ⟨?_, ih others⟩
      simp [outside before, outside after, first.whole]

theorem Listing.listed_eq (lists : Listing listing parts)
    (fits : ∀ item ∈ listing, Item mark item) :
    listed (parts.map String.toList) = listing := by
  induction lists with
  | nil => rfl
  | blank blank _ ih =>
      rw [List.map_cons, listed_cons, listed_blank blank, ih fits, List.nil_append]
  | item before after _ ih =>
      obtain ⟨first, others⟩ := List.forall_mem_cons.mp fits
      rw [List.map_cons, listed_cons,
        listed_of_trim (first.trim_padded before after) first.nonempty, ih others,
        List.singleton_append]

/-- **Items are read back as they were listed**, with any blanks around them and blank parts
anywhere. -/
theorem items_of_listing {separator : String} (single : separator.toList = [mark])
    (other : isBlank mark = false) (fits : ∀ item ∈ listing, Item mark item)
    (lists : Listing listing parts) : items mark (separator.intercalate parts) = listing := by
  cases parts with
  | nil =>
      cases lists
      rfl
  | cons part parts =>
      rw [items, splitOn_intercalate single (List.cons_ne_nil _ _) (lists.whole other fits),
        lists.listed_eq fits]

/-- So what was read is read again from a text that lists nothing else. -/
theorem items_intercalate_items {separator : String} (single : separator.toList = [mark])
    (other : isBlank mark = false) (text : String) :
    items mark (separator.intercalate (items mark text)) = items mark text :=
  items_of_listing single other (fun _ => item_of_mem_items) (listing_self _)

end PatternRefinement.Text
