import PatternRefinement.Proofs.FileTree.Path
import PatternRefinement.Proofs.Text.Split

/-!
# Paths that are made of names

## Main Definitions

* `Path.significant` — the names along a path that tell it from others
* `Path.above` — the ancestors of a path that is made of names

## Main Statements

* `Path.names_ofNames` — a path that is made of names has these names
* `Path.parent?_of_names` — the path without its last name is made of the names before it
* `Path.fileName?_join` — the last name along the path of an entry is the name of the entry
* `Path.ancestors_ofNames`, `Path.above_concat` — the ancestors of a path, by its names
-/

namespace PatternRefinement.Path

/-- A name as it stands along a path. -/
structure Segment (name : String) : Prop where
  ne_empty : name ≠ ""
  noSlash : '/' ∉ name.toList

theorem segment_of_mem_names {path name : String} (mem : name ∈ names path) : Segment name := by
  obtain ⟨letters, kept, rfl⟩ := List.mem_map.mp mem
  obtain ⟨part, nonempty⟩ := List.mem_filter.mp kept
  constructor
  · simpa using nonempty
  · intro slash
    rw [String.toList_ofList] at slash
    have other := Text.eq_false_of_mem_splitOnP part '/' slash
    simp at other

/-- **A path that is made of names has these names.** -/
theorem names_ofNames (absolute : Bool) {names : List String}
    (segments : ∀ name ∈ names, Segment name) : Path.names (ofNames absolute names) = names := by
  have relative : Path.names ("/".intercalate names) = names := by
    by_cases empty : names = []
    · rw [empty]
      rfl
    have split : ("/".intercalate names).toList.splitOn '/' = names.map String.toList :=
      Text.splitOn_intercalate rfl empty fun name mem => (segments name mem).noSlash
    have kept : (names.map String.toList).filter (fun letters => !letters.isEmpty) =
        names.map String.toList := by
      refine List.filter_eq_self.mpr fun letters mem => ?_
      obtain ⟨name, inside, rfl⟩ := List.mem_map.mp mem
      simpa using (segments name inside).ne_empty
    rw [Path.names, split, kept, List.map_map]
    simp
  cases absolute with
  | false => simpa [ofNames] using relative
  | true =>
      have split := names_slash "" ("/".intercalate names)
      rw [names_empty, List.nil_append, relative, String.empty_append] at split
      exact split

/-- One more name is added at the end. -/
theorem exists_ofNames_concat (absolute : Bool) (names : List String) (name : String) :
    ∃ behind, ofNames absolute (names ++ [name]) = ofNames absolute names ++ behind := by
  by_cases empty : names = []
  · exact ⟨name, by simp [empty, ofNames]⟩
  · refine ⟨"/" ++ name, ?_⟩
    rw [ofNames, ofNames, String.intercalate_append_of_ne_nil empty (List.cons_ne_nil name []),
      String.intercalate_singleton]
    simp only [String.append_assoc]

theorem isAbsolute_ofNames (absolute : Bool) {names : List String}
    (segments : ∀ name ∈ names, Segment name) :
    isAbsolute (ofNames absolute names) = absolute := by
  cases absolute with
  | true => simp [isAbsolute, ofNames]
  | false =>
      cases names with
      | nil => rfl
      | cons first rest =>
          obtain ⟨nonempty, noSlash⟩ := segments first List.mem_cons_self
          obtain ⟨behind, same⟩ : ∃ behind, ofNames false (first :: rest) = first ++ behind := by
            cases rest with
            | nil => exact ⟨"", by simp [ofNames]⟩
            | cons second others =>
                refine ⟨"/" ++ "/".intercalate (second :: others), ?_⟩
                simp [ofNames, String.append_assoc]
          rw [same, isAbsolute, beq_eq_false_iff_ne, String.toList_append,
            List.head?_append_of_ne_nil _ (by simpa using nonempty)]
          exact fun slash => noSlash (List.mem_of_mem_head? slash)

/-! ## Names without dots -/

/-- The names that tell a path from others, of all that stand along it. -/
def significant (absolute : Bool) : List String → List String
  | [] => []
  | first :: rest =>
    if absolute then (first :: rest).filter (· != ".") else first :: rest.filter (· != ".")

theorem significantNames_eq (path : String) :
    significantNames path = significant (isAbsolute path) (names path) := by
  unfold significantNames significant
  rfl

theorem significant_absolute (names : List String) :
    significant true names = names.filter (· != ".") := by
  cases names <;> rfl

theorem significant_relative (first : String) (rest : List String) :
    significant false (first :: rest) = first :: rest.filter (· != ".") := rfl

theorem significant_subset (absolute : Bool) (names : List String) :
    significant absolute names ⊆ names := by
  cases absolute with
  | true =>
      rw [significant_absolute]
      exact List.filter_subset_self names
  | false =>
      cases names with
      | nil => exact List.Subset.refl []
      | cons first rest =>
          rw [significant_relative]
          exact List.cons_subset_cons first (List.filter_subset_self rest)

theorem significant_significant (absolute : Bool) (names : List String) :
    significant absolute (significant absolute names) = significant absolute names := by
  cases absolute with
  | true => simp [significant_absolute]
  | false =>
      cases names with
      | nil => rfl
      | cons first rest => simp [significant_relative]

theorem significant_concat (absolute : Bool) (names : List String) {name : String}
    (noDot : name ≠ ".") :
    significant absolute (names ++ [name]) = significant absolute names ++ [name] := by
  cases absolute with
  | true => simp [significant_absolute, noDot]
  | false =>
      cases names with
      | nil => rfl
      | cons first rest => simp [significant_relative, noDot]

/-- The path without its last name. -/
theorem parent?_of_names {path name : String} {front : List String}
    (split : names path = front ++ [name]) (noDot : name ≠ ".") :
    parent? path = some (ofNames (isAbsolute path) (significant (isAbsolute path) front)) := by
  have whole : significantNames path = significant (isAbsolute path) front ++ [name] := by
    rw [significantNames_eq, split, significant_concat _ _ noDot]
  unfold parent?
  split
  · rename_i none
    rw [whole] at none
    simp at none
  · rename_i first rest some
    rw [← some, whole, List.dropLast_concat]

/-- The last name along the path of an entry is the name of the entry. -/
theorem fileName?_join (folder : String) {name : String} (component : Component name) :
    fileName? (join folder name) = some name := by
  have last : (significantNames (join folder name)).getLast? = some name := by
    rw [significantNames_eq, names_join folder component,
      significant_concat _ _ component.ne_dot, List.getLast?_concat]
  rw [fileName?, last]
  simp [component.ne_dot, component.ne_dots]

/-! ## Ancestors -/

/-- The ancestors of a path that is made of names. -/
def above (absolute : Bool) (names : List String) : List String :=
  (((List.range names.length).reverse.map names.take).filter
    fun names => absolute || !names.isEmpty).map (ofNames absolute)

theorem ancestors_ofNames (absolute : Bool) {names : List String}
    (segments : ∀ name ∈ names, Segment name)
    (settled : significant absolute names = names) :
    ancestors (ofNames absolute names) = above absolute names := by
  rw [ancestors, significantNames_eq, isAbsolute_ofNames absolute segments,
    names_ofNames absolute segments, settled]
  rfl

theorem above_concat (absolute : Bool) (names : List String) (name : String) :
    above absolute (names ++ [name]) =
      (if absolute || !names.isEmpty then [ofNames absolute names] else []) ++
        above absolute names := by
  have shorter : (List.range names.length).reverse.map (names ++ [name]).take =
      (List.range names.length).reverse.map names.take := by
    refine List.map_congr_left fun k mem => ?_
    have short : k ≤ names.length := by
      have := List.mem_range.mp (List.mem_reverse.mp mem)
      omega
    exact List.take_append_of_le_length short
  rw [above, List.length_append, List.length_singleton, List.range_succ, List.reverse_append,
    List.reverse_singleton, List.singleton_append, List.map_cons, shorter, List.take_left,
    List.filter_cons]
  split <;> simp [above]

end PatternRefinement.Path
