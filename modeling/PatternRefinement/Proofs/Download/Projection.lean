import PatternRefinement.Proofs.Download.SafeNames
import PatternRefinement.Proofs.Text.Items

/-!
# Names are made safe once and for all

A service may put directories before a name, with slashes of either kind, and blanks around it.
Nothing but what stands behind the last slash counts.

## Main Statements

* `Download.safeName_behind_slash` — what stands before a slash does not count
* `Download.safeName_padded` — blanks around a name do not count
* `Download.safeName_projects` — names are made safe, and safe names are left as they are

## Design Notes

A blank is never a slash.  So blanks before a name are either cut off with the directories or stand
before what is left, where they are trimmed; which of the two it is depends on whether there is a
slash at all.
-/

namespace PatternRefinement.Download

open Text (Blank isBlank trim)

/-! ## Behind the last slash -/

theorem behindSlash_append {slash : Char} (is : isSlash slash = true) (front behind : List Char) :
    behindSlash (front ++ slash :: behind) = behindSlash behind := by
  rw [behindSlash, List.splitOnP_append_cons front behind is,
    List.getLast?_append_of_ne_nil _ (List.splitOnP_ne_nil isSlash behind)]
  rfl

/-- A text has no slash in it, or a last one. -/
theorem whole_or_exists_slash (text : List Char) : (∀ c ∈ text, isSlash c = false) ∨
    ∃ front slash behind, text = front ++ slash :: behind ∧ isSlash slash = true ∧
      ∀ c ∈ behind, isSlash c = false := by
  induction text using List.reverseRecOn with
  | nil => exact Or.inl nofun
  | append_singleton text last ih =>
      cases is : isSlash last with
      | true => exact Or.inr ⟨text, last, [], rfl, is, nofun⟩
      | false =>
          have only : ∀ c ∈ [last], isSlash c = false := List.forall_mem_singleton.mpr is
          rcases ih with whole | ⟨front, slash, behind, rfl, isLast, whole⟩
          · exact Or.inl (List.forall_mem_append.mpr ⟨whole, only⟩)
          · refine Or.inr ⟨front, slash, behind ++ [last], ?_, isLast,
              List.forall_mem_append.mpr ⟨whole, only⟩⟩
            rw [List.append_assoc, List.cons_append]

theorem not_isSlash_of_isBlank {c : Char} (blank : isBlank c = true) : isSlash c = false := by
  cases is : isSlash c with
  | false => rfl
  | true =>
      have slash : c = '/' ∨ c = '\\' := by simpa [isSlash] using is
      rcases slash with rfl | rfl <;> cases blank

/-- Blanks around a text are left around what stands behind its last slash, or are cut off. -/
theorem trim_behindSlash_padded {front behind : List Char}
    (before : ∀ c ∈ front, isBlank c = true) (text : List Char)
    (after : ∀ c ∈ behind, isBlank c = true) :
    trim (behindSlash (front ++ (text ++ behind))) = trim (behindSlash text) := by
  have noSlash {blanks : List Char} (blank : ∀ c ∈ blanks, isBlank c = true) :
      ∀ c ∈ blanks, isSlash c = false := fun c mem => not_isSlash_of_isBlank (blank c mem)
  rcases whole_or_exists_slash text with whole | ⟨folders, slash, name, rfl, is, whole⟩
  · have padded : ∀ c ∈ front ++ (text ++ behind), isSlash c = false :=
      List.forall_mem_append.mpr
        ⟨noSlash before, List.forall_mem_append.mpr ⟨whole, noSlash after⟩⟩
    rw [behindSlash_of_whole padded, behindSlash_of_whole whole,
      Text.trim_padded before text after]
  · have padded : ∀ c ∈ name ++ behind, isSlash c = false :=
      List.forall_mem_append.mpr ⟨whole, noSlash after⟩
    calc trim (behindSlash (front ++ (folders ++ slash :: name ++ behind)))
        = trim (behindSlash ((front ++ folders) ++ slash :: (name ++ behind))) := by
          simp only [List.append_assoc, List.cons_append]
      _ = trim (name ++ behind) := by
          rw [behindSlash_append is, behindSlash_of_whole padded]
      _ = trim (behindSlash (folders ++ slash :: name)) := by
          rw [Text.trim_append_blank after, behindSlash_append is, behindSlash_of_whole whole]

/-! ## Names -/

/-- Only what stands behind the last slash counts, without the blanks around it. -/
theorem safeName_congr {raw other : String}
    (same : trim (behindSlash raw.toList) = trim (behindSlash other.toList)) :
    safeName raw = safeName other := by
  rw [safeName_eq, safeName_eq, same]

/-- **What stands before a slash does not count.** -/
theorem safeName_behind_slash {separator : String} {slash : Char}
    (single : separator.toList = [slash]) (is : isSlash slash = true) (folder raw : String) :
    safeName (folder ++ separator ++ raw) = safeName raw := by
  refine safeName_congr ?_
  rw [String.toList_append, String.toList_append, single, List.append_assoc,
    List.singleton_append, behindSlash_append is]

/-- **Blanks around a name do not count.** -/
theorem safeName_padded {front behind : String} (before : Blank front) (raw : String)
    (after : Blank behind) : safeName (front ++ raw ++ behind) = safeName raw := by
  refine safeName_congr ?_
  rw [String.toList_append, String.toList_append, List.append_assoc]
  exact trim_behindSlash_padded before raw.toList after

/-- **Names are made safe, and safe names are left as they are.**  A name that was made safe is
safe, so doing it again changes nothing; directories before a name do not count, whichever slash
stands behind them, and neither do blanks around it. -/
theorem safeName_projects :
    (∀ raw, Safe (safeName raw)) ∧
    (∀ name, safeName name = name ↔ Safe name) ∧
    (∀ raw, safeName (safeName raw) = safeName raw) ∧
    (∀ folder raw, safeName (folder ++ "/" ++ raw) = safeName raw ∧
      safeName (folder ++ "\\" ++ raw) = safeName raw) ∧
    ∀ front raw behind, Blank front → Blank behind →
      safeName (front ++ raw ++ behind) = safeName raw := by
  refine ⟨safe_safeName, fun name => safeName_eq_self_iff, fun raw => ?_,
    fun folder raw => ⟨?_, ?_⟩, fun front raw behind before after => ?_⟩
  · exact (safe_safeName raw).safeName_eq
  · exact safeName_behind_slash rfl rfl folder raw
  · exact safeName_behind_slash rfl rfl folder raw
  · exact safeName_padded before raw after

/-- A blank that is cut off with the directories behind it, and blanks around the name itself. -/
theorem safeName_projects_padded :
    Blank "\u2003" ∧ Blank " \t" ∧
      safeName ("\u2003" ++ "..\\a/ x.zip" ++ " \t") = safeName "..\\a/ x.zip" ∧
      safeName "..\\a/ x.zip" = "x.zip" := by
  have before : Blank "\u2003" := by decide
  have after : Blank " \t" := by decide
  obtain ⟨-, -, -, -, padded⟩ := safeName_projects
  exact ⟨before, after, padded _ _ _ before after, by decide +kernel⟩

end PatternRefinement.Download
