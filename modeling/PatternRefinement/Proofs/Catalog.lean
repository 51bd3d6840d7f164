import Mathlib.Data.List.Basic
import Mathlib.Data.List.Induction
import PatternRefinement.Catalog

/-!
# The catalog of a listing

## Main Definitions

* `FirstOccurrences` — what is left of items if of repeated ones the first counts

## Main Statements

* `firstOccurrences_eraseDups`, `FirstOccurrences.unique` — there is exactly one such list
* `eraseDups_append_filter` — what is left of items that stand behind others
* `Catalog.ofNames_names` — the catalog of a listing is the catalog of its own names

## Design Notes

The order of what is left is told by the places where the items stand first, so that nothing has to
be said about how repetitions are found.  Items are added at the end of a list: whether the last one
is left depends on those before it, and these are left as if it were not there.
-/

namespace PatternRefinement

section

variable {α : Type} [BEq α] {items kept : List α}

/-- What is left of items if of repeated ones the first counts: the same items, in the order of the
places where each of them stands first. -/
structure FirstOccurrences (items kept : List α) : Prop where
  mem_iff : ∀ item, item ∈ kept ↔ item ∈ items
  ordered : kept.Pairwise fun item other => items.idxOf item < items.idxOf other

theorem FirstOccurrences.nodup (left : FirstOccurrences items kept) : kept.Nodup :=
  left.ordered.imp fun {first second} less (same : first = second) =>
    Nat.lt_irrefl _ (same ▸ less)

/-- Only one list is what is left. -/
theorem FirstOccurrences.unique {others : List α} (left : FirstOccurrences items kept)
    (right : FirstOccurrences items others) : kept = others := by
  have perm : kept.Perm others := (List.perm_ext_iff_of_nodup left.nodup right.nodup).mpr
    fun item => (left.mem_iff item).trans (right.mem_iff item).symm
  refine perm.eq_of_pairwise (fun first second _ _ less greater => ?_) left.ordered right.ordered
  exact absurd (Nat.lt_trans less greater) (Nat.lt_irrefl _)

variable [LawfulBEq α]

/-- The last item is left if it does not stand before. -/
theorem eraseDups_concat (front : List α) (last : α) :
    (front ++ [last]).eraseDups =
      front.eraseDups ++ (if last ∈ front then [] else [last]) := by
  rw [List.eraseDups_append]
  by_cases mem : last ∈ front <;> simp [List.removeAll, List.eraseDups_cons, mem]

/-- Items that stand in the front of a list keep their first places, however it goes on. -/
theorem pairwise_idxOf_append {front : List α} (inside : ∀ item ∈ kept, item ∈ front)
    (ordered : kept.Pairwise fun item other => front.idxOf item < front.idxOf other)
    (behind : List α) : kept.Pairwise fun item other =>
      (front ++ behind).idxOf item < (front ++ behind).idxOf other := by
  refine ordered.imp_of_mem fun first second less => ?_
  rwa [List.idxOf_append_of_mem (inside _ first), List.idxOf_append_of_mem (inside _ second)]

theorem firstOccurrences_eraseDups (items : List α) : FirstOccurrences items items.eraseDups := by
  refine ⟨fun item => List.mem_eraseDups, ?_⟩
  induction items using List.reverseRecOn with
  | nil => exact List.Pairwise.nil
  | append_singleton front last ih =>
      have before := pairwise_idxOf_append (fun _ => List.mem_eraseDups.mp) ih [last]
      rw [eraseDups_concat]
      split
      · rwa [List.append_nil]
      · rename_i new
        refine List.pairwise_append.mpr ⟨before, List.pairwise_singleton _ _, ?_⟩
        intro item mem other only
        obtain rfl := List.mem_singleton.mp only
        have inside := List.mem_eraseDups.mp mem
        rw [List.idxOf_append_of_mem inside, List.idxOf_append_of_notMem new]
        exact Nat.lt_add_right _ (List.idxOf_lt_length_of_mem inside)

/-- A list keeps nothing twice once its repetitions are erased. -/
theorem nodup_eraseDups (items : List α) : items.eraseDups.Nodup :=
  (firstOccurrences_eraseDups items).nodup

/-- Items that are all different are left as they are. -/
theorem eraseDups_of_nodup (distinct : items.Nodup) : items.eraseDups = items := by
  induction items using List.reverseRecOn with
  | nil => rfl
  | append_singleton front last ih =>
      obtain ⟨before, -, apart⟩ := List.nodup_append.mp distinct
      have new : last ∉ front := fun mem => apart last mem last List.mem_cons_self rfl
      rw [eraseDups_concat, ih before, if_neg new]

/-! ### Items that are kept -/

/-- Items that are kept stand in the order in which they stood among all. -/
theorem idxOf_filter_lt_iff {keeps : α → Bool} {item other : α} (keep : keeps item = true)
    (keepOther : keeps other = true) :
    (items.filter keeps).idxOf item < (items.filter keeps).idxOf other ↔
      items.idxOf item < items.idxOf other := by
  induction items with
  | nil => rfl
  | cons first rest ih =>
      by_cases kept : keeps first = true
      · rw [List.filter_cons_of_pos kept]
        simp only [List.idxOf_cons]
        cases first == item <;> cases first == other <;> simp [ih]
      · have apart {item : α} (keep : keeps item = true) : first ≠ item := by
          rintro rfl
          exact kept keep
        rw [List.filter_cons_of_neg kept, List.idxOf_cons_ne _ (apart keep),
          List.idxOf_cons_ne _ (apart keepOther), Nat.succ_lt_succ_iff]
        exact ih

theorem FirstOccurrences.filter (left : FirstOccurrences items kept) (keeps : α → Bool) :
    FirstOccurrences (items.filter keeps) (kept.filter keeps) := by
  refine ⟨fun item => ?_, ?_⟩
  · rw [List.mem_filter, List.mem_filter, left.mem_iff]
  · refine (left.ordered.filter keeps).imp_of_mem fun first second less => ?_
    exact (idxOf_filter_lt_iff (List.mem_filter.mp first).2 (List.mem_filter.mp second).2).mpr less

/-- Repetitions may be erased before or after some items are kept. -/
theorem eraseDups_filter (items : List α) (keeps : α → Bool) :
    (items.filter keeps).eraseDups = items.eraseDups.filter keeps :=
  (firstOccurrences_eraseDups _).unique ((firstOccurrences_eraseDups items).filter keeps)

/-- **Of items behind others only the new ones are left.** -/
theorem eraseDups_append_filter (front behind : List α) : (front ++ behind).eraseDups =
    front.eraseDups ++ behind.eraseDups.filter (!front.eraseDups.contains ·) := by
  have same (item : α) : front.elem item = front.eraseDups.contains item := by
    rw [List.elem_eq_contains, Bool.eq_iff_iff, List.contains_iff_mem, List.contains_iff_mem,
      List.mem_eraseDups]
  rw [List.eraseDups_append, List.removeAll, eraseDups_filter]
  simp only [same]

end

namespace Catalog

theorem firstOccurrences_ofNames (names : List PatternName) :
    FirstOccurrences names (ofNames names).names :=
  firstOccurrences_eraseDups names

/-- A catalog offers what the listing names. -/
theorem contains_ofNames {names : List PatternName} {name : PatternName} :
    (ofNames names).contains name = true ↔ name ∈ names := by
  rw [contains, List.contains_iff_mem]
  exact (firstOccurrences_ofNames names).mem_iff name

/-- The catalog of a listing is the catalog of its own names. -/
theorem ofNames_names (names : List PatternName) :
    ofNames (ofNames names).names = ofNames names :=
  congrArg Catalog.mk (eraseDups_of_nodup (nodup_eraseDups names))

end Catalog

end PatternRefinement
