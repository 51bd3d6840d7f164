import PatternRefinement.Proofs.Download

/-!
# What becomes of the files when archives are saved

## Main Definitions

* `FileTree.KeepsFiles` — every file stays where it is, with its content
* `Download.Endangers` — a file stands where an archive is written first
* `Download.saveEach` — archives saved one after the other

## Main Statements

* `Download.keepsFiles_save`, `Download.not_keepsFiles_save` — saving keeps all files exactly if it
  endangers none
* `Download.read_save` — what becomes of an entry of the directory when an archive is saved
* `Download.saved_archives_stay` — an archive stays where it was saved, unless a later one is
  written there first
* `Download.staging_destroys_archive` — which can happen

## Design Notes

A name is looked for that nothing has, so no file is lost to the name that an archive gets.  The
staging name is taken without looking.  A file of that name is overwritten, and it is gone when the
archive has been moved away.
-/

namespace PatternRefinement

namespace FileTree

/-- Every file of a tree stands in another one, with the same content. -/
def KeepsFiles (tree after : FileTree) : Prop :=
  after.NoNewFile tree

end FileTree

namespace Download

/-- A file stands where the archive is written first. -/
def Endangers (folder rawName : String) (tree : FileTree) : Prop :=
  ∃ prepared old, tree.makeDirectories folder = (prepared, .ok ()) ∧
    prepared.read (stagingPath folder rawName) = .ok old

/-- Archives saved in a directory one after the other, each with the name that the service gives
it: the files afterwards, and what became of each archive. -/
def saveEach (folder : String) (tree : FileTree) :
    List (ByteArray × String) → FileTree × List (Except DownloadFailure String)
  | [] => (tree, [])
  | (content, rawName) :: rest =>
    let saved := save folder tree content rawName
    let others := saveEach folder saved.1 rest
    (others.1, saved.2 :: others.2)

section Save

variable {folder rawName : String} {content : ByteArray} {tree : FileTree}

/-! ## One archive -/

/-- Saving keeps all files if no file stands where the archive is written first. -/
theorem keepsFiles_save (safe : ¬Endangers folder rawName tree) :
    tree.KeepsFiles (save folder tree content rawName).1 := by
  intro location text here
  have stands := (tree.makeDirectories_grown folder).file_iff.mpr here
  apply (save_ending folder rawName content tree).file_stays stands
  intro made place
  exact safe ⟨_, text, Prod.ext rfl made, FileTree.read_eq_ok_iff.mpr ⟨location, place, stands⟩⟩

/-- A file that stands where the archive is written first is lost. -/
theorem not_keepsFiles_save (endangers : Endangers folder rawName tree) :
    ¬tree.KeepsFiles (save folder tree content rawName).1 := by
  obtain ⟨prepared, old, made, read⟩ := endangers
  obtain ⟨location, staged, stands⟩ := FileTree.read_eq_ok_iff.mp read
  have ending := save_ending folder rawName content tree
  have grown := tree.makeDirectories_grown folder
  have gone := ending.staging_gone (congrArg Prod.snd made) (by rw [made]; exact staged)
  rw [made] at grown
  intro keeps
  have still := keeps location old (grown.file_iff.mp stands)
  exact absurd (gone.symm.trans still) nofun

/-- An entry of the directory that can be read still can, unless the archive is written there first,
and the archive gets another name. -/
theorem read_save (content : ByteArray) {name : String} {text : ByteArray}
    (component : Path.Component name) (read : tree.read (Path.join folder name) = .ok text)
    (other : stagingPath folder rawName ≠ Path.join folder name) :
    (save folder tree content rawName).1.read (Path.join folder name) = .ok text ∧
      (save folder tree content rawName).2 ≠ .ok (Path.join folder name) := by
  obtain ⟨location, place, here⟩ := FileTree.read_eq_ok_iff.mp read
  have ending := save_ending folder rawName content tree
  have grown := tree.makeDirectories_grown folder
  have stands := grown.file_iff.mpr here
  have kept : (tree.makeDirectories folder).1.FilePlace (Path.join folder name) location :=
    place.of_keeps grown.keeps fun directory => absurd (directory.symm.trans stands) nofun
  constructor
  · refine FileTree.read_eq_ok_iff.mpr
      ⟨location, ending.sameDirectories.filePlace_iff.mpr kept, ending.file_stays stands ?_⟩
    -- The staging name is another one, so its place is another one.
    intro _ staged
    have names := staged.name_eq kept (component_stagingName (component_safeName rawName)) component
    exact other (congrArg (Path.join folder) names)
  · intro got
    exact absurd ((ending.path_free got kept).symm.trans stands) nofun

/-- An archive that was saved can be read at its path, which is the path of an entry of the
directory. -/
theorem read_of_save {path : String} (saved : (save folder tree content rawName).2 = .ok path) :
    (save folder tree content rawName).1.read path = .ok content ∧
      ∃ name, Path.Component name ∧ path = Path.join folder name := by
  have ending := save_ending folder rawName content tree
  have same := ending.sameDirectories
  generalize save folder tree content rawName = result at ending same saved ⊢
  cases ending with
  | unwritten prepared_eq noPlace => cases saved
  | discarded made staged => cases saved
  | @settled prepared staging target name made staged tried place free apart =>
      obtain rfl := Except.ok.inj saved
      rw [made] at same
      refine ⟨FileTree.read_eq_ok_iff.mpr ⟨target, same.filePlace_iff.mpr place, ?_⟩, name,
        component_of_mem_candidates (component_safeName rawName) tried, rfl⟩
      rw [Ending.node?_settled staged place, if_neg apart, if_pos rfl]

end Save

/-! ## Many archives -/

/-- An entry of the directory stays while archives are saved, unless one of them is written there
first, and none of them gets its name. -/
theorem read_saveEach {folder name : String} {text : ByteArray} {tree : FileTree}
    (component : Path.Component name) (read : tree.read (Path.join folder name) = .ok text)
    (archives : List (ByteArray × String))
    (other : ∀ archive ∈ archives, stagingPath folder archive.2 ≠ Path.join folder name) :
    (saveEach folder tree archives).1.read (Path.join folder name) = .ok text ∧
      .ok (Path.join folder name) ∉ (saveEach folder tree archives).2 := by
  induction archives generalizing tree with
  | nil => exact ⟨read, List.not_mem_nil⟩
  | cons archive rest ih =>
      obtain ⟨content, rawName⟩ := archive
      obtain ⟨kept, renamed⟩ := read_save content component read
        (other _ List.mem_cons_self)
      obtain ⟨stays, new⟩ := ih kept fun archive mem => other archive (List.mem_cons_of_mem _ mem)
      refine ⟨stays, fun mem => ?_⟩
      rcases List.mem_cons.mp mem with first | later
      · exact renamed first.symm
      · exact new later

/-- **What is saved is not lost to what is saved later**, with one exception.  Saving an archive
keeps all files exactly if no file stands where the archive is written first.  An archive that was
saved stays at its path, with its content, and no later archive gets that path, as long as no later
archive is written there first. -/
theorem saved_archives_stay (folder : String) (tree : FileTree) (content : ByteArray)
    (rawName : String) (later : List (ByteArray × String)) :
    let saved := save folder tree content rawName
    let others := saveEach folder saved.1 later
    (tree.KeepsFiles saved.1 ↔ ¬Endangers folder rawName tree) ∧
      ∀ path, saved.2 = .ok path →
        (∀ archive ∈ later, stagingPath folder archive.2 ≠ path) →
          others.1.read path = .ok content ∧ .ok path ∉ others.2 := by
  intro saved others
  refine ⟨⟨fun keeps endangers => not_keepsFiles_save endangers keeps, keepsFiles_save⟩,
    fun path done other => ?_⟩
  obtain ⟨read, name, component, rfl⟩ := read_of_save done
  exact read_saveEach component read later other

/-- The service calls two archives `.x.part` and `x`.  The first one is lost when the second one is
saved, and its path is given away again. -/
theorem staging_destroys_archive :
    let tree := FileTree.empty ["home"]
    let first := save "dl" tree ⟨#[49]⟩ ".x.part"
    let second := save "dl" first.1 ⟨#[50]⟩ "x"
    first.2 = .ok "dl/.x.part" ∧ first.1.read "dl/.x.part" = .ok ⟨#[49]⟩ ∧
      second.2 = .ok "dl/x" ∧ second.1.read "dl/.x.part" = .error .notFound ∧
      (save "dl" second.1 ⟨#[51]⟩ ".x.part").2 = .ok "dl/.x.part" := by
  decide +kernel

end Download

end PatternRefinement
