import PatternRefinement.Archive
import PatternRefinement.Proofs.Disposition.Positions
import PatternRefinement.Proofs.Text.Repair
import PatternRefinement.Proofs.Text.Split

/-!
# What a response is taken for

## Main Definitions

* `Response.First` — the first value of a header
* `Response.Tells` — the text of a header
* `ListsFiles` — the files that a text lists
* `Archive.Holds` — the archive in a response
* `Archive.Explains` — the message for a response without one
* `Response.Agree` — responses that are not told apart

## Main Statements

* `splitFiles_eq_iff` — the files that are read from a header are those that it lists
* `Response.header?_eq_some_iff` — the text that is read of a header is that of its first value
* `Archive.ofResponse_classifies` — the status decides whether a response holds an archive, and the
  first values of four headers say what archive that is

## Design Notes

Every field of an archive falls back on something.  `Archive.Holds` states each fallback apart, with
the texts that lead to it.  An empty name is none, so it is neither the path nor part of the name to
save under, and a list of blank parts counts as no list.
-/

namespace PatternRefinement

/-! ## Headers -/

namespace Response

/-- Names of headers are the same in any ASCII letter case. -/
def SameName (name other : String) : Prop := name.toLower = other.toLower

/-- The first value of a header. -/
def First (response : Response) (name : String) (value : ByteArray) : Prop :=
  ∃ before spelled behind, response.headers = before ++ (spelled, value) :: behind ∧
    SameName spelled name ∧ ∀ header ∈ before, ¬SameName header.1 name

/-- The text of a header: its first value, with every broken sequence replaced. -/
def Tells (response : Response) (name text : String) : Prop :=
  ∃ value, response.First name value ∧ Text.Repairs value.data.toList text.toList

/-- The headers that say something about an archive. -/
def knownHeaders : List String :=
  ["x-project-name", "x-project-path", "x-generated-files", "content-disposition"]

/-- Responses that are not told apart: their status and body are the same, and so is the first value
of every header that says something. -/
structure Agree (response other : Response) : Prop where
  status : response.status = other.status
  body : response.body = other.body
  first : ∀ name ∈ knownHeaders, ∀ value, response.First name value ↔ other.First name value

theorem sameName_iff {name other : String} :
    SameName name other ↔ (foldName name == foldName other) = true := by
  show name.map Char.toLower = other.map Char.toLower ↔ _
  rw [beq_iff_eq, foldName, foldName, ← String.toList_inj, String.toList_map, String.toList_map]

/-- **The text that is read of a header is that of its first value.** -/
theorem header?_eq_some_iff {response : Response} {name text : String} :
    response.header? name = some text ↔ response.Tells name text := by
  simp only [header?, Option.map_eq_some_iff, List.find?_eq_some_iff_append, Tells, First,
    Text.repairs_repaired_iff, sameName_iff]
  constructor
  · rintro ⟨⟨spelled, value⟩, ⟨same, before, behind, split, others⟩, rfl⟩
    exact ⟨value, ⟨before, spelled, behind, split, same, by simpa using others⟩, rfl⟩
  · rintro ⟨value, ⟨before, spelled, behind, split, same, others⟩, rfl⟩
    exact ⟨(spelled, value), ⟨same, before, behind, split, by simpa using others⟩, rfl⟩

example (first second body : ByteArray) :
    (Response.mk 200 [("X-Project-Name", first), ("x-project-name", second)] body).First
      "x-project-name" first :=
  ⟨[], "X-Project-Name", _, rfl, sameName_iff.mpr (by decide), by simp⟩

/-- A status is one of success from 200 to 299. -/
theorem isSuccess_iff {response : Response} :
    response.isSuccess = true ↔ 200 ≤ response.status ∧ response.status ≤ 299 := by
  rw [isSuccess, Bool.and_eq_true, decide_eq_true_eq, decide_eq_true_eq]

theorem Agree.header?_eq {response other : Response} (agree : response.Agree other)
    {name : String} (known : name ∈ knownHeaders) :
    response.header? name = other.header? name := by
  refine Option.ext fun text => ?_
  simp only [header?_eq_some_iff, Tells, agree.first name known]

end Response

/-! ## Lists of files -/

/-- The files that a text lists: they stand between its semicolons, trimmed, and blank parts are
none. -/
def ListsFiles (text : String) (files : List String) : Prop :=
  ∃ parts : List String, text = String.intercalate ";" parts ∧
    (∀ part ∈ parts, ';' ∉ part.toList) ∧
    files = ((parts.map fun part => Text.trim part.toList).filter (!·.isEmpty)).map String.ofList

/-- **The files that are read from a header are those that it lists.** -/
theorem splitFiles_eq_iff {text : String} {files : List String} :
    splitFiles text = files ↔ ListsFiles text files := by
  constructor
  · rintro rfl
    have letters : ((text.toList.splitOn ';').map String.ofList).map String.toList =
        text.toList.splitOn ';' := by
      simp only [List.map_map, Function.comp_def, String.toList_ofList, List.map_id']
    refine ⟨(text.toList.splitOn ';').map String.ofList, ?_, ?_, ?_⟩
    · rw [← String.toList_inj, String.toList_intercalate, letters]
      exact (List.intercalate_splitOn ';').symm
    · intro part mem inside
      obtain ⟨characters, piece, rfl⟩ := List.mem_map.mp mem
      rw [String.toList_ofList] at inside
      simpa using Text.eq_false_of_mem_splitOnP piece ';' inside
    · rw [splitFiles, ← letters, List.map_map, letters]
      rfl
  · rintro ⟨parts, rfl, whole, rfl⟩
    cases parts with
    | nil => rfl
    | cons part parts =>
        rw [splitFiles, Text.splitOn_intercalate rfl (List.cons_ne_nil _ _) whole, List.map_map]
        rfl

/-! ## Archives -/

namespace Archive

/-- The archive in a response to a request for some steps. -/
structure Holds (response : Response) (stepCount : Nat) (archive : Archive) : Prop where
  content : archive.content = response.body
  projectName : ∀ name, archive.projectName? = some name ↔
    response.Tells "x-project-name" name ∧ name ≠ ""
  projectPath : ∀ path, archive.projectPath? = some path ↔
    (response.Tells "x-project-path" path ∧ path ≠ "") ∨
      (∀ other, response.Tells "x-project-path" other → other = "") ∧
        archive.projectName? = some path
  listed : ∀ text, response.Tells "x-generated-files" text → ListsFiles text archive.generatedFiles
  unlisted : (∀ text, ¬response.Tells "x-generated-files" text) → archive.generatedFiles = []
  counted : archive.generatedFiles ≠ [] → archive.fileCount = archive.generatedFiles.length
  estimated : archive.generatedFiles = [] → archive.fileCount = 2 * stepCount
  fileName : ∀ disposition?, (∀ text, disposition? = some text ↔
      response.Tells "content-disposition" text) →
    archive.fileName = Disposition.archiveName disposition? (archive.projectName?.getD "")
  named : archive.fileName ≠ ""

/-- The message for a response that holds no archive. -/
structure Explains (response : Response) (message : String) : Prop where
  nonempty : message ≠ ""
  empty : response.body = ByteArray.empty → message = "HTTP " ++ toString response.status
  wellFormed : response.body ≠ ByteArray.empty → response.body.IsValidUTF8 →
    message.toByteArray = response.body
  broken : response.body ≠ ByteArray.empty → ¬response.body.IsValidUTF8 →
    Text.Repairs response.body.data.toList message.toList

theorem holds_ofSuccess (response : Response) (stepCount : Nat) :
    (ofSuccess response stepCount).Holds response stepCount where
  content := rfl
  projectName name := by
    rw [← Response.header?_eq_some_iff]
    simp [ofSuccess, Option.filter_eq_some_iff]
  projectPath path := by
    simp only [← Response.header?_eq_some_iff]
    change ((response.header? "x-project-path").filter (!·.isEmpty)).orElse
      (fun _ => (ofSuccess response stepCount).projectName?) = some path ↔ _
    cases given : response.header? "x-project-path" with
    | none => simp
    | some text =>
        by_cases blank : text = ""
        · simp [blank]
        · have kept : (some text).filter (!·.isEmpty) = some text := by simp [blank]
          rw [kept, Option.orElse_some]
          constructor
          · rintro ⟨⟩
            exact .inl ⟨rfl, blank⟩
          · rintro (⟨given, -⟩ | ⟨absent, -⟩)
            · exact given
            · exact absurd (absent text rfl) blank
  listed text tells := by
    rw [← splitFiles_eq_iff, ofSuccess, Response.header?_eq_some_iff.mpr tells]
    rfl
  unlisted silent := by
    have absent : response.header? "x-generated-files" = none :=
      Option.eq_none_iff_forall_ne_some.mpr fun text given =>
        silent text (Response.header?_eq_some_iff.mp given)
    rw [ofSuccess, absent]
    rfl
  counted nonempty := if_neg fun empty => nonempty (List.isEmpty_iff.mp empty)
  estimated empty := (if_pos (List.isEmpty_iff.mpr empty)).trans (Nat.mul_comm stepCount 2)
  fileName disposition? tells := by
    have same : disposition? = response.header? "content-disposition" := by
      ext text
      rw [tells, Response.header?_eq_some_iff]
    rw [same]
    rfl
  named := Disposition.archiveName_ne_empty _ _

theorem explains_refusal (response : Response) : Explains response (refusal response) := by
  by_cases empty : response.body = ByteArray.empty
  · have told : refusal response = "HTTP " ++ toString response.status := by
      rw [refusal, empty]
      rfl
    have nonempty : refusal response ≠ "" := by
      rw [told, ← String.toList_inj.ne, String.toList_append]
      exact List.append_ne_nil_of_left_ne_nil (by decide) _
    exact ⟨nonempty, fun _ => told, absurd empty, absurd empty⟩
  · have repairs := Text.repairs_repaired_iff.mpr (rfl : Text.repaired response.body = _)
    have nonempty : Text.repaired response.body ≠ "" := by
      intro nothing
      rw [nothing] at repairs
      generalize letters : response.body.data.toList = bytes at repairs
      cases repairs with
      | nil => exact empty (ByteArray.ext (Array.toList_inj.mp letters))
    have told : refusal response = Text.repaired response.body := if_neg (by simpa using nonempty)
    exact ⟨told ▸ nonempty, fun nothing => absurd nothing empty,
      fun _ valid => by rw [told, Text.toByteArray_repaired valid], fun _ _ => told ▸ repairs⟩

/-- **The status decides whether a response holds an archive, and the first values of four headers
say what archive that is.**  A response without one is explained by its body, or by its status if
that is empty. -/
theorem ofResponse_classifies (response : Response) (stepCount : Nat) :
    (200 ≤ response.status ∧ response.status ≤ 299 →
      ∃ archive, ofResponse response stepCount = .ok archive ∧
        archive.Holds response stepCount) ∧
    (¬(200 ≤ response.status ∧ response.status ≤ 299) →
      ∃ message, ofResponse response stepCount = .error (.generationFailed message) ∧
        Explains response message) ∧
    ∀ other, response.Agree other → ofResponse response stepCount = ofResponse other stepCount := by
  refine ⟨fun within => ?_, fun outside => ?_, fun other agree => ?_⟩
  · exact ⟨_, if_pos (Response.isSuccess_iff.mpr within), holds_ofSuccess response stepCount⟩
  · exact ⟨_, if_neg fun within => outside (Response.isSuccess_iff.mp within),
      explains_refusal response⟩
  · unfold ofResponse ofSuccess refusal Response.isSuccess
    rw [agree.status, agree.body, agree.header?_eq (show "x-project-name" ∈ _ by decide),
      agree.header?_eq (show "x-project-path" ∈ _ by decide),
      agree.header?_eq (show "x-generated-files" ∈ _ by decide),
      agree.header?_eq (show "content-disposition" ∈ _ by decide)]

end Archive

end PatternRefinement
