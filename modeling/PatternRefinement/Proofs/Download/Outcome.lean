import PatternRefinement.Proofs.Download.Numbering
import PatternRefinement.Proofs.Download.Preservation

/-!
# When an archive is saved, and where

## Main Definitions

* `Download.firstFree?` — the first name that is tried and that nothing in the directory has
* `Download.slashedFolder` — a directory that is named with slashes at its end

## Main Statements

* `Download.save_of_fits` — an archive gets the first free name if it can be written at all
* `Download.node?_candidate_of_error` — saving that fails leaves all names as they were
* `Download.save_exactly` — when saving succeeds, which path the archive gets, and what is left
* `Download.free_name_not_given` — a name that is free before is not always given

## Design Notes

Names are looked for when the archive has been written already.  Its staging name is none of those
that are tried, so the search finds what it would have found before.  It cannot fail, because no
name that is tried is longer than the staging name.
-/

namespace PatternRefinement.Download

open PatternRefinement.FileTree (EntryName)

/-! ## The search for a name -/

/-- The first name that is tried and that nothing in a directory has. -/
def firstFree? (tree : FileTree) (directory : Location) (name : String) : Option String :=
  (candidates name).find? fun tried => (tree.node? (directory ++ [tried])).isNone

theorem firstFree?_eq_some_iff {tree : FileTree} {directory : Location} {name tried : String} :
    firstFree? tree directory name = some tried ↔ ∃ k < 1000, candidate name k = tried ∧
      tree.node? (directory ++ [candidate name k]) = none ∧
      ∀ earlier < k, tree.node? (directory ++ [candidate name earlier]) ≠ none := by
  rw [firstFree?, candidates, List.find?_map, Option.map_eq_some_iff]
  simp only [List.find?_range_eq_some, Function.comp_apply, List.mem_range, maxAttempts,
    Option.isNone_iff_eq_none, Bool.not_eq_true', Option.isNone_eq_false_iff,
    Option.isSome_iff_ne_none]
  constructor
  · rintro ⟨k, ⟨free, few, taken⟩, same⟩
    exact ⟨k, few, same, free, taken⟩
  · rintro ⟨k, few, same, free, taken⟩
    exact ⟨k, ⟨free, few, taken⟩, same⟩

theorem isSome_firstFree?_iff {tree : FileTree} {directory : Location} {name : String} :
    (firstFree? tree directory name).isSome = true ↔
      ∃ k < 1000, tree.node? (directory ++ [candidate name k]) = none := by
  rw [firstFree?, List.find?_isSome]
  simp [candidates, maxAttempts]

/-- What saving gives once the names have been looked for: the path of a free one, or the failure
that there is none. -/
def given (folder name : String) : Option String → Except DownloadFailure String
  | some tried => .ok (Path.join folder tried)
  | none => .error (.noFreeName name folder)

/-- Where every name can be looked for, the search ends with the first free one. -/
theorem freePath?_eq {tree : FileTree} {folder : String} {free : String → Bool}
    {names : List String}
    (looked : ∀ name ∈ names, tree.exists? (Path.join folder name) = .ok !free name) :
    freePath? tree folder names = .ok ((names.find? free).map (Path.join folder)) := by
  induction names with
  | nil => rfl
  | cons name rest ih =>
      obtain ⟨first, others⟩ := List.forall_mem_cons.mp looked
      unfold freePath?
      rw [first, List.find?_cons]
      cases free name with
      | true => rfl
      | false => exact ih others

/-! ## Saving in a directory that is there -/

section Prepared

variable {folder rawName : String} {content : ByteArray} {tree prepared : FileTree}
  {directory : Location}

/-- A file that is moved to a place where a file can be is moved there. -/
theorem exists_rename_eq_ok {source target : String} {location place : Location}
    (leads : tree.status source = .ok (location, .file content))
    (fits : tree.FilePlace target place) : ∃ moved, tree.rename source target = .ok moved := by
  unfold FileTree.rename
  rw [leads]
  dsimp only
  rw [FileTree.write_eq_ok_iff.mpr ⟨place, fits, rfl⟩]
  dsimp only
  split
  · exact ⟨_, rfl⟩
  · exact ⟨_, rfl⟩

/-- No name that is tried is taken by an archive that is written. -/
theorem node?_candidate_put (content : ByteArray) (name : String) (attempt : Nat) :
    (prepared.put (directory ++ [stagingName name]) (.file content)).node?
        (directory ++ [candidate name attempt]) =
      prepared.node? (directory ++ [candidate name attempt]) := by
  rw [FileTree.node?_put _ (List.append_ne_nil_of_right_ne_nil _ (List.cons_ne_nil _ _))]
  exact if_neg (by simpa using candidate_ne_stagingName name attempt)

/-- An archive that has been written in a directory under its staging name. -/
structure Staged (prepared staged : FileTree) (folder name : String) (directory : Location)
    (content : ByteArray) : Prop where
  fits : EntryName folder (stagingName name)
  named : staged.directoryAt? folder = some directory
  leads : staged.status (Path.join folder (stagingName name)) =
    .ok (directory ++ [stagingName name], .file content)
  others : ∀ attempt, staged.node? (directory ++ [candidate name attempt]) =
    prepared.node? (directory ++ [candidate name attempt])

theorem staged_of_write {staged : FileTree} {name : String} (component : Path.Component name)
    (named : prepared.directoryAt? folder = some directory)
    (write : prepared.write (Path.join folder (stagingName name)) content = .ok staged) :
    Staged prepared staged folder name directory content := by
  obtain ⟨location, place, rfl, leads⟩ := FileTree.status_write write
  obtain ⟨fits, rfl, -⟩ :=
    (FileTree.filePlace_join_iff (component_stagingName component) named).mp place
  exact ⟨fits, (FileTree.sameDirectories_put place.ne_nil place.noDirectory
    content).keeps.directoryAt? named, leads, node?_candidate_put content name⟩

section Staged

variable {staged : FileTree} {name : String} (component : Path.Component name)
  (written : Staged prepared staged folder name directory content)

include component written

/-- An archive that has been written is no other entry, so every name that is tried is looked up as
it would be without it. -/
theorem Staged.exists?_candidate {attempt : Nat} (few : attempt < 1000) :
    staged.exists? (Path.join folder (candidate name attempt)) =
      .ok (prepared.node? (directory ++ [candidate name attempt])).isSome := by
  rw [FileTree.exists?_join (component_candidate component attempt) written.named
    (entryName_candidate component written.fits few), written.others]

/-- An archive that has been written can be given every name that is free. -/
theorem Staged.exists_rename {attempt : Nat} (few : attempt < 1000)
    (free : prepared.node? (directory ++ [candidate name attempt]) = none) :
    ∃ moved, staged.rename (Path.join folder (stagingName name))
      (Path.join folder (candidate name attempt)) = .ok moved := by
  refine exists_rename_eq_ok written.leads
    ((FileTree.filePlace_join_iff (component_candidate component attempt) written.named).mpr
      ⟨entryName_candidate component written.fits few, rfl, ?_⟩)
  rw [written.others, free]
  exact nofun

/-- The search for a name finds the first free one, although the archive has been written. -/
theorem freePath?_of_staged : freePath? staged folder (candidates name) =
    .ok ((firstFree? prepared directory name).map (Path.join folder)) := by
  refine freePath?_eq fun tried mem => ?_
  obtain ⟨attempt, few, rfl⟩ := List.mem_map.mp mem
  rw [written.exists?_candidate component (List.mem_range.mp few), Option.not_isNone]

end Staged

theorem settle_of_none {staged : FileTree} {name staging : String}
    (search : freePath? staged folder (candidates name) = .ok none) :
    (settle staged folder name staging).2 = .error (.noFreeName name folder) := by
  unfold settle
  rw [search]

theorem settle_of_some {staged moved : FileTree} {name staging path : String}
    (search : freePath? staged folder (candidates name) = .ok (some path))
    (renamed : staged.rename staging path = .ok moved) :
    (settle staged folder name staging).2 = .ok path := by
  unfold settle
  rw [search]
  dsimp only
  rw [renamed]

/-- An archive that has been written gets the first free name. -/
theorem settle_of_write {staged : FileTree} {name : String} (component : Path.Component name)
    (named : prepared.directoryAt? folder = some directory)
    (write : prepared.write (Path.join folder (stagingName name)) content = .ok staged) :
    (settle staged folder name (Path.join folder (stagingName name))).2 =
      given folder name (firstFree? prepared directory name) := by
  have written := staged_of_write component named write
  have search := freePath?_of_staged component written
  cases found : firstFree? prepared directory name with
  | none =>
      rw [found] at search
      exact settle_of_none search
  | some tried =>
      obtain ⟨attempt, few, rfl, free, -⟩ := firstFree?_eq_some_iff.mp found
      rw [found] at search
      obtain ⟨moved, renamed⟩ := written.exists_rename component few free
      exact settle_of_some search renamed

variable (made : tree.makeDirectories folder = (prepared, .ok ()))
  (named : prepared.directoryAt? folder = some directory)

include made

/-- An archive that cannot be written is not saved. -/
theorem save_of_noPlace
    (noPlace : ∀ location, ¬prepared.FilePlace (stagingPath folder rawName) location) :
    ∃ cause, (save folder tree content rawName).2 = .error cause := by
  unfold save
  rw [made]
  dsimp only
  cases write : prepared.write (Path.join folder (stagingName (safeName rawName))) content with
  | error e => exact ⟨.file e, rfl⟩
  | ok staged =>
      obtain ⟨location, place, -⟩ := FileTree.write_eq_ok_iff.mp write
      exact absurd place (noPlace location)

include named

/-- **An archive gets the first free name if it can be written.** -/
theorem save_of_fits (fits : EntryName folder (stagingName (safeName rawName)))
    (noDirectory : prepared.node? (directory ++ [stagingName (safeName rawName)]) ≠
      some .directory) :
    (save folder tree content rawName).2 =
      given folder (safeName rawName) (firstFree? prepared directory (safeName rawName)) := by
  have component := component_safeName rawName
  have place := (FileTree.filePlace_join_iff (component_stagingName component) named).mpr
    ⟨fits, rfl, noDirectory⟩
  have write : prepared.write (Path.join folder (stagingName (safeName rawName))) content =
      .ok (prepared.put (directory ++ [stagingName (safeName rawName)]) (.file content)) :=
    FileTree.write_eq_ok_iff.mpr ⟨_, place, rfl⟩
  unfold save
  rw [made]
  dsimp only
  rw [write]
  exact settle_of_write component named write

/-- Saving succeeds if the archive can be written and there is a free name. -/
theorem exists_save_eq_ok_iff : (∃ path, (save folder tree content rawName).2 = .ok path) ↔
    EntryName folder (stagingName (safeName rawName)) ∧
      prepared.node? (directory ++ [stagingName (safeName rawName)]) ≠ some .directory ∧
      (firstFree? prepared directory (safeName rawName)).isSome = true := by
  have component := component_stagingName (component_safeName rawName)
  by_cases fits : EntryName folder (stagingName (safeName rawName)) ∧
      prepared.node? (directory ++ [stagingName (safeName rawName)]) ≠ some .directory
  · rw [save_of_fits made named fits.1 fits.2]
    cases firstFree? prepared directory (safeName rawName) with
    | none => exact ⟨nofun, fun ⟨_, _, free⟩ => absurd free Bool.false_ne_true⟩
    | some tried => exact ⟨fun _ => ⟨fits.1, fits.2, rfl⟩, fun _ => ⟨_, rfl⟩⟩
  · have noPlace location (place : prepared.FilePlace (stagingPath folder rawName) location) :
        False := by
      have parts := (FileTree.filePlace_join_iff component named).mp place
      exact fits ⟨parts.1, parts.2.2⟩
    obtain ⟨cause, refused⟩ : ∃ cause, (save folder tree content rawName).2 = .error cause :=
      save_of_noPlace made noPlace
    rw [refused]
    exact ⟨nofun, fun ⟨entry, noDirectory, _⟩ => absurd ⟨entry, noDirectory⟩ fits⟩

/-- The path of an archive that is saved is that of the first free name. -/
theorem firstFree?_of_save {path : String}
    (saved : (save folder tree content rawName).2 = .ok path) :
    ∃ tried, firstFree? prepared directory (safeName rawName) = some tried ∧
      path = Path.join folder tried := by
  obtain ⟨fits, noDirectory, -⟩ := (exists_save_eq_ok_iff made named).mp ⟨path, saved⟩
  rw [save_of_fits made named fits noDirectory] at saved
  cases found : firstFree? prepared directory (safeName rawName) with
  | none =>
      rw [found] at saved
      cases saved
  | some tried =>
      rw [found] at saved
      exact ⟨tried, rfl, (Except.ok.inj saved).symm⟩

/-- **Saving that fails leaves all names as they were.** -/
theorem node?_candidate_of_error {cause : DownloadFailure}
    (refused : (save folder tree content rawName).2 = .error cause) (attempt : Nat) :
    (save folder tree content rawName).1.node?
        (directory ++ [candidate (safeName rawName) attempt]) =
      prepared.node? (directory ++ [candidate (safeName rawName) attempt]) := by
  have ending := save_ending folder rawName content tree
  generalize save folder tree content rawName = result at ending refused
  cases ending with
  | @unwritten other cause prepared_eq noPlace =>
      obtain rfl : prepared = other := (congrArg Prod.fst made).symm.trans prepared_eq
      rfl
  | @discarded other staging cause made' staged =>
      obtain rfl : other = prepared := congrArg Prod.fst (made'.symm.trans made)
      obtain ⟨-, rfl, -⟩ := (FileTree.filePlace_join_iff
        (component_stagingName (component_safeName rawName)) named).mp staged
      rw [Ending.node?_discarded staged]
      exact if_neg (by simpa using candidate_ne_stagingName (safeName rawName) attempt)
  | settled made' staged tried place free apart => cases refused

omit named

/-- No file is left where the archive is written first. -/
theorem read_stagingPath (old : ByteArray) :
    (save folder tree content rawName).1.read (stagingPath folder rawName) ≠ .ok old := by
  intro read
  have ending := save_ending folder rawName content tree
  obtain ⟨location, place, stands⟩ := FileTree.read_eq_ok_iff.mp read
  have gone := ending.staging_gone (congrArg Prod.snd made)
    (ending.sameDirectories.filePlace_iff.mp place)
  cases gone.symm.trans stands

end Prepared

/-! ## The outcome of saving -/

/-- **When an archive is saved, and where.**  Once the directory is there, an archive is saved
exactly if no character of its name is NUL, its staging name and the path of that are not too long,
no directory has the staging name, and one of the names that are tried is free.  It gets the first
free one, and can be read there.  Saving that fails leaves all these names as they were, and nothing
is left in either case where the archive is written first.

A directory that was there before has not changed.  One that is created gets no entry with it,
unless its path leads upwards.  The numbers stand before the extension of a name that has one, and
at the end of a name that has none. -/
theorem save_exactly (folder rawName : String) (content : ByteArray) {tree prepared : FileTree}
    (made : tree.makeDirectories folder = (prepared, .ok ())) :
    let name := safeName rawName
    let saved := save folder tree content rawName
    ∃ directory, prepared.directoryAt? folder = some directory ∧
      (∀ before, tree.directoryAt? folder = some before → prepared = tree) ∧
      (".." ∉ Path.names folder → ∀ entry,
        prepared.node? (directory ++ [entry]) = tree.node? (directory ++ [entry])) ∧
      ((∃ path, saved.2 = .ok path) ↔
        '\x00' ∉ name.toList ∧ (stagingName name).utf8ByteSize ≤ 255 ∧
          (stagingPath folder rawName).utf8ByteSize ≤ 4095 ∧
          prepared.node? (directory ++ [stagingName name]) ≠ some .directory ∧
          ∃ k < 1000, prepared.node? (directory ++ [candidate name k]) = none) ∧
      (∀ path, saved.2 = .ok path → saved.1.read path = .ok content ∧
        ∃ k < 1000, path = Path.join folder (candidate name k) ∧
          prepared.node? (directory ++ [candidate name k]) = none ∧
          ∀ earlier < k, prepared.node? (directory ++ [candidate name earlier]) ≠ none) ∧
      (∀ cause, saved.2 = .error cause → ∀ k, saved.1.node? (directory ++ [candidate name k]) =
        prepared.node? (directory ++ [candidate name k])) ∧
      (∀ old, saved.1.read (stagingPath folder rawName) ≠ .ok old) ∧
      candidate name 0 = name ∧
      (∀ stem extension, HasExtension name stem extension → ∀ k ≥ 1,
        candidate name k = stem ++ " (" ++ Text.decimal k ++ ")." ++ extension) ∧
      ((∃ stem extension, HasExtension name stem extension) ↔ '.' ∈ name.toList.tail) ∧
      ('.' ∉ name.toList.tail → ∀ k ≥ 1,
        candidate name k = name ++ " (" ++ Text.decimal k ++ ")") := by
  intro name saved
  obtain ⟨directory, named⟩ := FileTree.directoryAt?_of_makeDirectories made
  refine ⟨directory, named, fun before there => ?_, fun down entry =>
    FileTree.node?_entry_of_makeDirectories down made named entry, ?_, fun path done => ?_,
    fun cause refused => node?_candidate_of_error made named refused, read_stagingPath made,
    candidate_zero name, fun stem extension has k numbered => candidate_of_extension has numbered,
    exists_hasExtension_iff, fun noPoint k numbered => ?_⟩
  · exact congrArg Prod.fst (made.symm.trans (FileTree.makeDirectories_of_directoryAt? there))
  · rw [exists_save_eq_ok_iff made named, isSome_firstFree?_iff]
    constructor
    · rintro ⟨fits, noDirectory, free⟩
      exact ⟨fun nul => fits.noNul (nul_mem_stagingName.mpr nul), fits.short, fits.shortPath,
        noDirectory, free⟩
    · rintro ⟨noNul, short, shortPath, noDirectory, free⟩
      exact ⟨⟨fun nul => noNul (nul_mem_stagingName.mp nul), short, shortPath⟩, noDirectory, free⟩
  · obtain ⟨tried, found, rfl⟩ := firstFree?_of_save made named done
    obtain ⟨k, few, rfl, free, taken⟩ := firstFree?_eq_some_iff.mp found
    exact ⟨(read_of_save done).1, k, few, rfl, free, taken⟩
  · exact candidate_of_no_extension (fun has => noPoint (exists_hasExtension_iff.mp has)) numbered

/-- An archive beside one of the same name gets a number. -/
theorem save_exactly_beside :
    let tree := ((FileTree.empty ["home"]).put ["home", "dl"] .directory).put
      ["home", "dl", "x.zip"] (.file ⟨#[48]⟩)
    tree.makeDirectories "dl" = (tree, .ok ()) ∧
      (save "dl" tree ⟨#[49]⟩ "x.zip").2 = .ok "dl/x (1).zip" ∧
      (save "dl" tree ⟨#[49]⟩ "x.zip").1.read "dl/x (1).zip" = .ok ⟨#[49]⟩ := by
  intro tree
  have named : tree.directoryAt? "dl" = some ["home", "dl"] := by decide +kernel
  have made := FileTree.makeDirectories_of_directoryAt? named
  have saved : (save "dl" tree ⟨#[49]⟩ "x.zip").2 = .ok "dl/x (1).zip" := by decide +kernel
  obtain ⟨_, -, -, -, -, success, -⟩ := save_exactly "dl" "x.zip" ⟨#[49]⟩ made
  exact ⟨made, saved, (success _ saved).1⟩

/-! ## Names that are free before -/

/-- A directory that is named with slashes at its end. -/
def slashedFolder (count : Nat) : String :=
  "dl" ++ String.ofList (List.replicate count '/')

section Slashed

variable {count : Nat}

theorem names_slashedFolder : Path.names (slashedFolder count) = ["dl"] := by
  unfold slashedFolder
  induction count with
  | zero => rfl
  | succ count ih =>
      rw [List.replicate_succ', String.ofList_append, ← String.append_assoc]
      exact (Path.names_slash_end _).trans ih

theorem toList_slashedFolder :
    (slashedFolder count).toList = 'd' :: 'l' :: List.replicate count '/' := by
  simp [slashedFolder]

theorem utf8ByteSize_slashedFolder : (slashedFolder count).utf8ByteSize = 2 + count := by
  have slashes : (String.ofList (List.replicate count '/')).utf8ByteSize = count := by
    rw [utf8ByteSize_of_single fun c slash => by rw [List.eq_of_mem_replicate slash]; rfl,
      List.length_replicate]
  rw [slashedFolder, String.utf8ByteSize_append, slashes]
  rfl

/-- The slashes at the end of a path lead nowhere. -/
theorem directoryAt?_slashedFolder (short : 2 + count ≤ FileTree.maxPathBytes) :
    ((FileTree.empty ["home"]).put ["home", "dl"] .directory).directoryAt? (slashedFolder count) =
      some ["home", "dl"] := by
  refine FileTree.directoryAt?_eq_some_iff.mpr ⟨⟨?_, ?_⟩, ?_⟩
  · rw [toList_slashedFolder]
    simp [List.mem_replicate]
  · rw [utf8ByteSize_slashedFolder]
    exact short
  · have relative : Path.isAbsolute (slashedFolder count) = false := by
      rw [Path.isAbsolute, toList_slashedFolder]
      rfl
    rw [FileTree.start, relative, names_slashedFolder]
    rfl

/-- The path of the staging name can be too long although the name and its path are not. -/
theorem free_name_of_slashedFolder (short : count ≤ 4091) (long : 4087 ≤ count) :
    let tree := (FileTree.empty ["home"]).put ["home", "dl"] .directory
    tree.directoryAt? (slashedFolder count) = some ["home", "dl"] ∧
      tree.isDirectory (stagingPath (slashedFolder count) "x") = false ∧
      tree.exists? (Path.join (slashedFolder count) (safeName "x")) = .ok false ∧
      ∃ cause, (save (slashedFolder count) tree ⟨#[49]⟩ "x").2 = .error cause := by
  intro tree
  have safe : Safe "x" :=
    ⟨⟨by decide, by decide, by decide, by decide⟩, by decide, by decide +kernel⟩
  have component := safe.toComponent
  have same := safe.safeName_eq
  have named : tree.directoryAt? (slashedFolder count) = some ["home", "dl"] :=
    directoryAt?_slashedFolder (by rw [FileTree.maxPathBytes]; omega)
  have tooLong : ¬FileTree.Followable (stagingPath (slashedFolder count) "x") := by
    intro followable
    have short := followable.short
    obtain ⟨slash, joined, -⟩ := Path.exists_join (slashedFolder count)
      (component_stagingName component)
    rw [stagingPath, same, joined, String.utf8ByteSize_append, String.utf8ByteSize_append,
      utf8ByteSize_slashedFolder, utf8ByteSize_stagingName, show "x".utf8ByteSize = 1 from rfl,
      FileTree.maxPathBytes] at short
    omega
  have fits : EntryName (slashedFolder count) "x" := by
    refine ⟨by decide, by decide, ?_⟩
    obtain ⟨slash, joined, added⟩ := Path.exists_join (slashedFolder count) component
    have most : slash.utf8ByteSize ≤ 1 := by
      rcases added with rfl | ⟨rfl, -⟩ <;> decide
    rw [joined, String.utf8ByteSize_append, String.utf8ByteSize_append,
      utf8ByteSize_slashedFolder, show "x".utf8ByteSize = 1 from rfl, FileTree.maxPathBytes]
    omega
  refine ⟨named, ?_, ?_, ?_⟩
  · unfold FileTree.isDirectory
    split
    · rename_i leads
      exact absurd (FileTree.followable_of_status leads) tooLong
    · rfl
  · rw [same, FileTree.exists?_join component named fits]
    rfl
  · refine save_of_noPlace (FileTree.makeDirectories_of_directoryAt? named) fun location place => ?_
    obtain ⟨_, _, located, -⟩ := place.located
    exact tooLong (FileTree.followable_of_locate located).1

end Slashed

/-- **A name that is free before is not always given.**  The path of the staging name can be too
long.  A directory that leads upwards can be created with an entry, which takes the name. -/
theorem free_name_not_given :
    (let tree := (FileTree.empty ["home"]).put ["home", "dl"] .directory
    tree.directoryAt? (slashedFolder 4090) = some ["home", "dl"] ∧
      tree.isDirectory (stagingPath (slashedFolder 4090) "x") = false ∧
      tree.exists? (Path.join (slashedFolder 4090) (safeName "x")) = .ok false ∧
      ∃ cause, (save (slashedFolder 4090) tree ⟨#[49]⟩ "x").2 = .error cause) ∧
    ('\x00' ∉ (safeName "x").toList ∧ (stagingName (safeName "x")).utf8ByteSize ≤ 255) ∧
    let bare := FileTree.empty ["home"]
    bare.exists? (Path.join "dl/x.zip/.." (safeName "x.zip")) = .ok false ∧
      (save "dl/x.zip/.." bare ⟨#[49]⟩ "x.zip").2 = .ok "dl/x.zip/../x (1).zip" :=
  ⟨free_name_of_slashedFolder (by omega) (by omega), by decide +kernel, by decide +kernel⟩

end PatternRefinement.Download
