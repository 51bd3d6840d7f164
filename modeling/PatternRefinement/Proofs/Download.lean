import PatternRefinement.Proofs.Download.Ending

/-!
# What failing to save an archive leaves behind

## Main Definitions

* `FileTree.NoNewFile` — every file of a tree stood, with its content, in another one

## Main Statements

* `Download.save_error` — saving that fails leaves no file behind
-/

namespace PatternRefinement

namespace FileTree

/-- Every file that stands in `after` stood in `tree`, with the same content. -/
def NoNewFile (tree after : FileTree) : Prop :=
  ∀ location content, after.node? location = some (.file content) →
    tree.node? location = some (.file content)

end FileTree

namespace Download

/-- **Saving that fails leaves no file behind**: every file that stands afterwards stood there
before. -/
theorem save_error {folder rawName : String} {tree after : FileTree} {content : ByteArray}
    {cause : DownloadFailure} (h : save folder tree content rawName = (after, .error cause)) :
    tree.NoNewFile after := by
  have ending := save_ending folder rawName content tree
  have grown := tree.makeDirectories_grown folder
  rw [h] at ending
  intro location text here
  refine grown.file_iff.mp ?_
  cases ending with
  | unwritten prepared_eq _ =>
      rw [prepared_eq]
      exact here
  | discarded made staged =>
      -- What was written is gone, with whatever stood there before.
      rw [Ending.node?_discarded staged] at here
      split at here
      · cases here
      · rw [made]
        exact here

end Download

end PatternRefinement
