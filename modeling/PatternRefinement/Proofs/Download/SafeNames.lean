import PatternRefinement.Proofs.Download.Names

/-!
# Names that are left as they are

## Main Definitions

* `Download.Safe` — a name of which nothing has to be taken away

## Main Statements

* `Download.safe_safeName`, `Download.safeName_eq_self_iff` — names are made safe, and exactly the
  safe ones are left as they are
* `Download.Safe.candidate` — every name that is tried for a safe one is safe

## Design Notes

That a name is safe is more than that it is one component of a path: a backslash or a blank at an
end does no harm there, but is taken away nevertheless.
-/

namespace PatternRefinement.Download

/-- A name of which nothing has to be taken away: one component of a path, whichever of the two
slashes separates them, with no blank at its ends. -/
structure Safe (name : String) : Prop extends Path.Component name where
  noBackslash : '\\' ∉ name.toList
  trimmed : Text.trim name.toList = name.toList

theorem safe_defaultArchiveName : Safe Disposition.defaultArchiveName :=
  ⟨⟨by decide, by decide, by decide, by decide⟩, by decide, by decide +kernel⟩

/-- **What is left of a name is safe.** -/
theorem safe_safeName (raw : String) : Safe (safeName raw) := by
  have component := component_safeName raw
  rw [safeName_eq] at component ⊢
  dsimp only at component ⊢
  split
  · exact safe_defaultArchiveName
  rename_i usable
  rw [if_neg usable] at component
  refine ⟨component, fun backslash => ?_, ?_⟩
  · rw [String.toList_ofList] at backslash
    cases not_isSlash_of_mem_trim backslash
  · rw [String.toList_ofList, Text.trim_trim]

variable {name : String}

theorem Safe.safeName_eq (safe : Safe name) : safeName name = name := by
  have whole : ∀ c ∈ name.toList, isSlash c = false := by
    intro c mem
    have slash : c ≠ '/' := fun same => safe.noSlash (same ▸ mem)
    have backslash : c ≠ '\\' := fun same => safe.noBackslash (same ▸ mem)
    simp [isSlash, slash, backslash]
  rw [Download.safeName_eq, behindSlash_of_whole whole, safe.trimmed, String.ofList_toList]
  exact if_neg (by simp [safe.ne_empty, safe.ne_dot, safe.ne_dots])

/-- **Exactly the safe names are left as they are.** -/
theorem safeName_eq_self_iff : safeName name = name ↔ Safe name :=
  ⟨fun same => same ▸ safe_safeName name, Safe.safeName_eq⟩

/-! ## Numbered names -/

/-- A name is put together from what is before its last point and what is behind it. -/
theorem splitExtension_eq_some {stem extension : String}
    (split : splitExtension name = (stem, some extension)) :
    name = stem ++ "." ++ extension ∧ stem ≠ "" := by
  unfold splitExtension at split
  dsimp only at split
  split at split
  swap
  · cases split
  rename_i point first rest behind
  obtain ⟨rfl, same⟩ := Prod.mk.inj split
  obtain rfl := Option.some.inj same
  have isPoint : point = '.' := by
    have head := List.head?_dropWhile_not (· != '.') name.toList.reverse
    rw [behind] at head
    simpa using head
  have whole : name.toList = (first :: rest).reverse ++
      '.' :: (name.toList.reverse.takeWhile (· != '.')).reverse := by
    apply List.reverse_injective
    calc name.toList.reverse
        = name.toList.reverse.takeWhile (· != '.') ++ name.toList.reverse.dropWhile (· != '.') :=
          List.takeWhile_append_dropWhile.symm
      _ = _ := by simp [behind, isPoint]
  exact ⟨String.toList_inj.mp (whole.trans (by simp)), by simp⟩

theorem splitExtension_eq_none {stem : String} (split : splitExtension name = (stem, none)) :
    stem = name := by
  unfold splitExtension at split
  dsimp only at split
  split at split
  · cases split
  · exact (Prod.mk.inj split).1.symm

/-- **Every name that is tried for a safe one is safe.** -/
theorem Safe.candidate (safe : Safe name) (attempt : Nat) :
    Safe (Download.candidate name attempt) := by
  have component := component_candidate safe.toComponent attempt
  have digits : '\\' ∉ (Text.decimal attempt).toList := not_mem_decimal rfl attempt
  unfold Download.candidate at component ⊢
  split at component
  · exact safe
  · -- The numbered name begins like the name and ends, with its point and extension, like it.
    rename_i number _ _ stem extension _ split
    obtain ⟨whole, nonempty⟩ := splitExtension_eq_some split
    have begins : stem.toList ≠ [] := by simpa using nonempty
    have text : name.toList = stem.toList ++ '.' :: extension.toList := by simp [whole]
    have numbered : (stem ++ " (" ++ Text.decimal number ++ ")." ++ extension).toList =
        stem.toList ++ (" (".toList ++ (Text.decimal number).toList ++ [')']) ++
          '.' :: extension.toList := by simp
    have inName := safe.noBackslash
    rw [text] at inName
    refine ⟨component, ?_, Text.trim_eq_self_of_ends safe.trimmed ?_ safe.trimmed ?_⟩
    · rw [numbered]
      simp [digits] at inName ⊢
      exact inName
    · rw [numbered, text, List.append_assoc, List.head?_append_of_ne_nil _ begins,
        List.head?_append_of_ne_nil _ begins]
    · rw [numbered, text, List.getLast?_append_of_ne_nil _ (List.cons_ne_nil _ _),
        List.getLast?_append_of_ne_nil _ (List.cons_ne_nil _ _)]
  · -- The numbered name begins like the name and ends with a bracket.
    rename_i number _ _ stem _ split
    obtain rfl := splitExtension_eq_none split
    have numbered : (stem ++ " (" ++ Text.decimal number ++ ")").toList =
        stem.toList ++ (" (".toList ++ (Text.decimal number).toList) ++ [')'] := by simp
    have bracket : Text.trim [')'] = [')'] := by decide
    refine ⟨component, ?_, Text.trim_eq_self_of_ends safe.trimmed ?_ bracket ?_⟩
    · simp [digits, safe.noBackslash]
    · rw [numbered, List.append_assoc, List.head?_append_of_ne_nil _ safe.toList_ne_nil]
    · rw [numbered, List.getLast?_concat, List.getLast?_singleton]

/-- The name itself is tried first. -/
theorem exists_candidates_eq (name : String) :
    ∃ numbered, candidates name = name :: numbered := by
  refine ⟨(List.range 999).map fun n => candidate name (n + 1), ?_⟩
  rw [candidates, maxAttempts, List.range_succ_eq_map, List.map_cons, List.map_map]
  rfl

end PatternRefinement.Download
