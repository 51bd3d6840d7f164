import Mathlib.Data.List.Basic
import PatternRefinement.FileTree.Path

/-!
# Paths of the entries of a directory

## Main Definitions

* `Path.Component` — a name that leads to an entry of a directory and nowhere else

## Main Statements

* `Path.names_join` — the path of an entry has the names of its directory, and its own behind them

## Design Notes

A directory may be written in many ways: empty, with slashes at its end, with dots in it.  Joining
adds a slash where one is needed, and the names along the joined path show no trace of that.
-/

namespace PatternRefinement.Path

/-- A name that leads to an entry of a directory: it is one component of a path, and none of the
two names that stand for the directory itself and the one above it. -/
structure Component (name : String) : Prop where
  ne_empty : name ≠ ""
  noSlash : '/' ∉ name.toList
  ne_dot : name ≠ "."
  ne_dots : name ≠ ".."

/-! ## Names along a path -/

theorem names_empty : names "" = [] := rfl

/-- The names along a path are those before a slash in it and those behind. -/
theorem names_slash (front behind : String) :
    names (front ++ "/" ++ behind) = names front ++ names behind := by
  have split : (front ++ "/" ++ behind).toList = front.toList ++ '/' :: behind.toList := by
    simp
  rw [names, split, List.splitOn_append_cons_self, List.filter_append, List.map_append]
  rfl

theorem names_slash_end (front : String) : names (front ++ "/") = names front := by
  have split := names_slash front ""
  rwa [String.append_empty, names_empty, List.append_nil] at split

theorem exists_of_endsWithSlash {path : String} (closed : endsWithSlash path = true) :
    ∃ front, path = front ++ "/" := by
  have last : path.toList.getLast? = some '/' := by simpa [endsWithSlash] using closed
  obtain ⟨front, same⟩ := List.getLast?_eq_some_iff.mp last
  refine ⟨String.ofList front, String.toList_inj.mp ?_⟩
  simp [same]

namespace Component

variable {name : String}

theorem toList_ne_nil (component : Component name) : name.toList ≠ [] := by
  simpa using component.ne_empty

theorem isAbsolute_eq (component : Component name) : isAbsolute name = false := by
  rw [isAbsolute, beq_eq_false_iff_ne]
  intro first
  exact component.noSlash (List.mem_of_mem_head? first)

theorem names_eq (component : Component name) : names name = [name] := by
  rw [names, List.splitOn_eq_singleton component.noSlash]
  simp [component.toList_ne_nil]

end Component

/-! ## Joined paths -/

section Join

variable {name : String}

/-- The path of an entry is that of the directory and its name, with a slash in between if one is
missing. -/
theorem exists_join (folder : String) (component : Component name) :
    ∃ slash, join folder name = folder ++ slash ++ name ∧
      (slash = "" ∨ slash = "/" ∧ folder ≠ "") := by
  rw [join, component.isAbsolute_eq, if_neg Bool.false_ne_true]
  split
  · exact ⟨"", by rw [String.append_empty], Or.inl rfl⟩
  · rename_i unclosed
    refine ⟨"/", rfl, Or.inr ⟨rfl, ?_⟩⟩
    rintro rfl
    exact unclosed rfl

/-- **The path of an entry has the names of its directory, and its own behind them.** -/
theorem names_join (folder : String) (component : Component name) :
    names (join folder name) = names folder ++ [name] := by
  rw [join, component.isAbsolute_eq, if_neg Bool.false_ne_true]
  split
  · rename_i closed
    rcases Bool.or_eq_true_iff.mp closed with empty | slash
    · obtain rfl : folder = "" := by simpa using empty
      rw [String.empty_append, component.names_eq, names_empty, List.nil_append]
    · obtain ⟨front, rfl⟩ := exists_of_endsWithSlash slash
      rw [names_slash, names_slash_end, component.names_eq]
  · rw [names_slash, component.names_eq]

theorem join_ne_empty (folder : String) (component : Component name) : join folder name ≠ "" := by
  have names := names_join folder component
  intro empty
  rw [empty, names_empty] at names
  simp at names

/-- The path of an entry starts where that of the directory starts. -/
theorem isAbsolute_join (folder : String) (component : Component name) :
    isAbsolute (join folder name) = isAbsolute folder := by
  obtain ⟨slash, same, added⟩ := exists_join folder component
  by_cases empty : folder = ""
  · obtain rfl : slash = "" := added.resolve_right fun other => other.2 empty
    rw [same, empty, String.append_empty, String.empty_append, component.isAbsolute_eq]
    rfl
  · have nonempty : folder.toList ≠ [] := by simpa using empty
    rw [same, isAbsolute, isAbsolute, String.toList_append, String.toList_append,
      List.append_assoc, List.head?_append_of_ne_nil _ nonempty]

theorem endsWithSlash_join (folder : String) (component : Component name) :
    endsWithSlash (join folder name) = false := by
  obtain ⟨slash, same, -⟩ := exists_join folder component
  rw [same, endsWithSlash, String.toList_append, beq_eq_false_iff_ne]
  intro last
  rw [List.getLast?_append_of_ne_nil _ component.toList_ne_nil] at last
  exact component.noSlash (List.mem_of_getLast? last)

theorem mem_join {folder : String} (component : Component name) {c : Char}
    (mem : c ∈ folder.toList) : c ∈ (join folder name).toList := by
  obtain ⟨slash, same, -⟩ := exists_join folder component
  simp [same, mem]

theorem utf8ByteSize_le_join (folder : String) (component : Component name) :
    folder.utf8ByteSize ≤ (join folder name).utf8ByteSize := by
  obtain ⟨slash, same, -⟩ := exists_join folder component
  rw [same, String.utf8ByteSize_append, String.utf8ByteSize_append]
  omega

end Join

end PatternRefinement.Path
