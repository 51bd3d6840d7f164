import PatternRefinement.Proofs.Download.Names
import PatternRefinement.Proofs.FileTree.Directory

/-!
# How saving an archive ends

## Main Definitions

* `Download.stagingPath` — where an archive is written before it has a name of its own
* `Download.Ending` — the three ways in which saving can end, with the files that they leave

## Main Statements

* `Download.save_ending` — saving ends in one of these ways
* `Download.Ending.sameDirectories` — once the directory is there, no directory comes or goes
* `Download.Ending.file_stays`, `Download.Ending.staging_gone`, `Download.Ending.path_free` — what
  becomes of the files in it
* `Download.save_confined` — everything that saving changes is inside the directory, or a
  directory that leads there

## Design Notes

Whatever is to be said about saving is said about the three endings, each of which gives the tree
that it leaves as a few changes at named locations.  The program itself is looked into here only.
-/

namespace PatternRefinement.Download

/-- Where an archive is written before it has a name of its own. -/
def stagingPath (folder rawName : String) : String :=
  Path.join folder (stagingName (safeName rawName))

/-- How saving an archive can end. -/
inductive Ending (folder rawName : String) (content : ByteArray) (tree : FileTree) :
    FileTree × Except DownloadFailure String → Prop
  /-- Nothing is written: there is no directory, or no place for the archive in it. -/
  | unwritten {prepared : FileTree} {cause : DownloadFailure}
      (prepared_eq : (tree.makeDirectories folder).1 = prepared)
      (noPlace : (tree.makeDirectories folder).2 = .ok () →
        ∀ location, ¬prepared.FilePlace (stagingPath folder rawName) location) :
      Ending folder rawName content tree (prepared, .error cause)
  /-- The archive is written and taken away again, because it gets no name of its own. -/
  | discarded {prepared : FileTree} {staging : Location} {cause : DownloadFailure}
      (made : tree.makeDirectories folder = (prepared, .ok ()))
      (staged : prepared.FilePlace (stagingPath folder rawName) staging) :
      Ending folder rawName content tree
        ((prepared.put staging (.file content)).erase staging, .error cause)
  /-- The archive is written and moved to a name that nothing has. -/
  | settled {prepared : FileTree} {staging target : Location} {name : String}
      (made : tree.makeDirectories folder = (prepared, .ok ()))
      (staged : prepared.FilePlace (stagingPath folder rawName) staging)
      (tried : name ∈ candidates (safeName rawName))
      (place : prepared.FilePlace (Path.join folder name) target)
      (free : prepared.node? target = none) (apart : target ≠ staging) :
      Ending folder rawName content tree
        (((prepared.put staging (.file content)).put target (.file content)).erase staging,
          .ok (Path.join folder name))

/-! ## The steps of saving -/

theorem discard_of_noPlace {tree : FileTree} {path : String}
    (noPlace : ∀ location, ¬tree.FilePlace path location) : discard tree path = tree := by
  unfold discard
  split
  · rename_i removed
    obtain ⟨location, -, place, -⟩ := FileTree.remove_eq_ok_iff.mp removed
    exact absurd place (noPlace location)
  · rfl

/-- A file that was written and then discarded is gone. -/
theorem discard_put {tree : FileTree} {path : String} {location : Location}
    (place : tree.FilePlace path location) (content : ByteArray) :
    discard (tree.put location (.file content)) path =
      (tree.put location (.file content)).erase location := by
  have same := FileTree.sameDirectories_put place.ne_nil place.noDirectory content
  have stands : (tree.put location (.file content)).node? location = some (.file content) := by
    rw [FileTree.node?_put tree place.ne_nil, if_pos rfl]
  rw [discard, FileTree.remove_eq_ok_iff.mpr
    ⟨location, content, same.filePlace_iff.mpr place, stands, rfl⟩]

/-- A path that is found free belongs to one of the names, and nothing stands there. -/
theorem freePath?_eq_some {tree : FileTree} {folder path : String} {names : List String}
    (found : freePath? tree folder names = .ok (some path)) :
    ∃ name ∈ names, path = Path.join folder name ∧ tree.exists? path = .ok false := by
  induction names with
  | nil => cases found
  | cons name rest ih =>
      unfold freePath? at found
      split at found
      · cases found
      · rename_i free
        cases found
        exact ⟨name, List.mem_cons_self, rfl, free⟩
      · obtain ⟨later, mem, same, free⟩ := ih found
        exact ⟨later, List.mem_cons_of_mem name mem, same, free⟩

/-- No file stands at the place of a path that leads to nothing. -/
theorem node?_of_not_exists {tree : FileTree} {path : String} {location : Location}
    (free : tree.exists? path = .ok false) (place : tree.FilePlace path location) :
    tree.node? location = none := by
  cases here : tree.node? location with
  | none => rfl
  | some node =>
      cases node with
      | directory => exact absurd here place.noDirectory
      | file content =>
          rw [FileTree.exists?, FileTree.status_eq_file_iff.mpr ⟨place, here⟩] at free
          cases free

/-- Moving a file to a path that leads to nothing puts it there and takes it away. -/
theorem rename_eq_ok {tree moved : FileTree} {source target : String} {location : Location}
    {content : ByteArray} (place : tree.FilePlace source location)
    (here : tree.node? location = some (.file content)) (free : tree.exists? target = .ok false)
    (renamed : tree.rename source target = .ok moved) :
    ∃ place, tree.FilePlace target place ∧ tree.node? place = none ∧ place ≠ location ∧
      moved = (tree.put place (.file content)).erase location := by
  rw [FileTree.rename, FileTree.status_eq_file_iff.mpr ⟨place, here⟩] at renamed
  dsimp only at renamed
  split at renamed
  · cases renamed
  rename_i written write
  obtain ⟨new, newPlace, rfl⟩ := FileTree.write_eq_ok_iff.mp write
  have missing := node?_of_not_exists free newPlace
  have apart : new ≠ location := by
    rintro rfl
    exact absurd (here.symm.trans missing) nofun
  rw [FileTree.status_of_not_exists free] at renamed
  exact ⟨new, newPlace, missing, apart, (Except.ok.inj renamed).symm⟩

/-! ## Saving -/

/-- **Saving ends in one of three ways.** -/
theorem save_ending (folder rawName : String) (content : ByteArray) (tree : FileTree) :
    Ending folder rawName content tree (save folder tree content rawName) := by
  unfold save
  dsimp only
  split
  · rename_i prepared error made
    refine .unwritten (congrArg Prod.fst made) fun done => ?_
    rw [made] at done
    cases done
  rename_i prepared made
  rw [← stagingPath]
  split
  · rename_i error write
    have noPlace : ∀ location, ¬prepared.FilePlace (stagingPath folder rawName) location := by
      intro location place
      rw [FileTree.write_eq_ok_iff.mpr ⟨location, place, rfl⟩] at write
      cases write
    rw [discard_of_noPlace noPlace]
    exact .unwritten (congrArg Prod.fst made) fun _ => noPlace
  rename_i staged write
  obtain ⟨staging, place, rfl⟩ := FileTree.write_eq_ok_iff.mp write
  have stagedPlace : (prepared.put staging (.file content)).FilePlace
      (stagingPath folder rawName) staging :=
    (FileTree.sameDirectories_put place.ne_nil place.noDirectory content).filePlace_iff.mpr place
  have same := FileTree.sameDirectories_put place.ne_nil place.noDirectory content
  have stands : (prepared.put staging (.file content)).node? staging = some (.file content) := by
    rw [FileTree.node?_put prepared place.ne_nil, if_pos rfl]
  unfold settle
  rw [discard_put place]
  split
  · exact .discarded made place
  · exact .discarded made place
  rename_i path found
  obtain ⟨name, tried, rfl, free⟩ := freePath?_eq_some found
  split
  · exact .discarded made place
  rename_i moved renamed
  obtain ⟨target, targetPlace, missing, apart, rfl⟩ :=
    rename_eq_ok stagedPlace stands free renamed
  rw [FileTree.node?_put prepared place.ne_nil, if_neg apart] at missing
  exact .settled made place tried (same.filePlace_iff.mp targetPlace) missing apart

/-! ## What an ending leaves -/

namespace Ending

variable {folder rawName : String} {content : ByteArray} {tree prepared : FileTree}
  {staging target : Location} {saved : FileTree × Except DownloadFailure String}

theorem node?_discarded {path : String} (staged : prepared.FilePlace path staging)
    (location : Location) : ((prepared.put staging (.file content)).erase staging).node? location =
      if location = staging then none else prepared.node? location := by
  rw [FileTree.node?_erase _ staged.ne_nil, FileTree.node?_put _ staged.ne_nil]
  split <;> rfl

theorem node?_settled {path other : String} (staged : prepared.FilePlace path staging)
    (place : prepared.FilePlace other target) (location : Location) :
    (((prepared.put staging (.file content)).put target (.file content)).erase staging).node?
        location =
      if location = staging then none
      else if location = target then some (.file content) else prepared.node? location := by
  rw [FileTree.node?_erase _ staged.ne_nil, FileTree.node?_put _ place.ne_nil,
    FileTree.node?_put _ staged.ne_nil]
  split <;> rfl

/-- Once the directory is there, no directory comes or goes. -/
theorem sameDirectories (ending : Ending folder rawName content tree saved) :
    (tree.makeDirectories folder).1.SameDirectories saved.1 := by
  cases ending with
  | unwritten prepared_eq noPlace =>
      rw [prepared_eq]
      exact FileTree.SameDirectories.refl _
  | discarded made staged =>
      rw [made]
      have written := FileTree.sameDirectories_put staged.ne_nil staged.noDirectory content
      have still := written.filePlace_iff.mpr staged
      exact written.trans (FileTree.sameDirectories_erase still.ne_nil still.noDirectory)
  | settled made staged tried place free apart =>
      rw [made]
      have written := FileTree.sameDirectories_put staged.ne_nil staged.noDirectory content
      have target := written.filePlace_iff.mpr place
      have moved := written.trans
        (FileTree.sameDirectories_put target.ne_nil target.noDirectory content)
      have still := moved.filePlace_iff.mpr staged
      exact moved.trans (FileTree.sameDirectories_erase still.ne_nil still.noDirectory)

/-- A file that stood when the directory was there stays, unless the archive is written there
first. -/
theorem file_stays (ending : Ending folder rawName content tree saved) {location : Location}
    {text : ByteArray}
    (stands : (tree.makeDirectories folder).1.node? location = some (.file text))
    (apart : (tree.makeDirectories folder).2 = .ok () →
      ¬(tree.makeDirectories folder).1.FilePlace (stagingPath folder rawName) location) :
    saved.1.node? location = some (.file text) := by
  cases ending with
  | unwritten prepared_eq noPlace =>
      rw [← prepared_eq]
      exact stands
  | @discarded prepared staging cause made staged =>
      rw [made] at stands apart
      have other : location ≠ staging := by
        rintro rfl
        exact apart rfl staged
      rw [node?_discarded staged, if_neg other]
      exact stands
  | @settled prepared staging target name made staged tried place free _ =>
      rw [made] at stands apart
      have other : location ≠ staging := by
        rintro rfl
        exact apart rfl staged
      have elsewhere : location ≠ target := by
        rintro rfl
        exact absurd (free.symm.trans stands) nofun
      rw [node?_settled staged place, if_neg other, if_neg elsewhere]
      exact stands

/-- Nothing is left where the archive is written first. -/
theorem staging_gone (ending : Ending folder rawName content tree saved) {location : Location}
    (done : (tree.makeDirectories folder).2 = .ok ())
    (staged : (tree.makeDirectories folder).1.FilePlace (stagingPath folder rawName) location) :
    saved.1.node? location = none := by
  cases ending with
  | unwritten prepared_eq noPlace => exact absurd (prepared_eq ▸ staged) (noPlace done location)
  | discarded made staged' =>
      rw [made] at staged
      rw [staged.unique staged', node?_discarded staged', if_pos rfl]
  | settled made staged' tried place free apart =>
      rw [made] at staged
      rw [staged.unique staged', node?_settled staged' place, if_pos rfl]

/-- The path that an archive gets is one where nothing stood. -/
theorem path_free (ending : Ending folder rawName content tree saved) {path : String}
    (got : saved.2 = .ok path) {location : Location}
    (place : (tree.makeDirectories folder).1.FilePlace path location) :
    (tree.makeDirectories folder).1.node? location = none := by
  cases ending with
  | unwritten prepared_eq noPlace => cases got
  | discarded made staged => cases got
  | settled made staged tried target free apart =>
      obtain rfl := Except.ok.inj got
      rw [made] at place ⊢
      rw [place.unique target]
      exact free

/-- Once the directory is there, nothing changes but entries of it. -/
theorem unchanged_or_entryOf (ending : Ending folder rawName content tree saved)
    (location : Location) :
    saved.1.node? location = (tree.makeDirectories folder).1.node? location ∨
      saved.1.EntryOf folder location := by
  have same := ending.sameDirectories
  have component := component_safeName rawName
  cases ending with
  | unwritten prepared_eq noPlace => exact Or.inl (by rw [prepared_eq])
  | @discarded prepared staging cause made staged =>
      rw [made] at same ⊢
      by_cases here : location = staging
      · subst here
        exact Or.inr (same.keeps.entryOf (staged.entryOf (component_stagingName component)))
      · exact Or.inl ((node?_discarded staged location).trans (if_neg here))
  | @settled prepared staging target name made staged tried place free apart =>
      rw [made] at same ⊢
      by_cases here : location = staging
      · subst here
        exact Or.inr (same.keeps.entryOf (staged.entryOf (component_stagingName component)))
      by_cases there : location = target
      · subst there
        have entry := place.entryOf (component_of_mem_candidates component tried)
        exact Or.inr (same.keeps.entryOf entry)
      · refine Or.inl ((node?_settled staged place location).trans ?_)
        rw [if_neg here, if_neg there]

end Ending

/-- **Everything that saving changes is an entry of the directory, or a missing directory that is
created because the directory needs it.** -/
theorem save_confined (folder rawName : String) (content : ByteArray) (tree : FileTree)
    (location : Location) :
    let after := (save folder tree content rawName).1
    after.node? location = tree.node? location ∨
      tree.Created after (folder :: Path.ancestors folder) location ∨
      after.EntryOf folder location := by
  intro after
  have ending := save_ending folder rawName content tree
  rcases ending.unchanged_or_entryOf location with same | entry
  · rcases (tree.makeDirectories_createsOnly folder).changes location with unchanged | created
    · exact Or.inl (same.trans unchanged)
    · exact Or.inr (Or.inl (created.keeps ending.sameDirectories.keeps))
  · exact Or.inr (Or.inr entry)

end PatternRefinement.Download
