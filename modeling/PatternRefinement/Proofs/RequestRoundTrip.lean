import PatternRefinement.Proofs.Json.ReadBack
import PatternRefinement.Request

/-!
# Requests are read as they were written

## Main Definitions

* `GenerationRequest.rewritten?` — a body that is read and written anew

## Main Statements

* `GenerationRequest.ofBody?_body` — the body of a request asks for that request
* `GenerationRequest.body_determines` — no two requests have one body, and one that is written anew
  stays as it is

## Design Notes

A body does not say which payload it carries. The members of the two payloads have different
names, so the reader that looks for one of them does not find it in the other.
-/

namespace PatternRefinement

open Json (Value)

/-! ## The value of a request -/

theorem integral_namesJson (depth : Nat) (names : List PatternName) :
    (namesJson names).Integral (depth + 1) := by
  refine .array fun item mem => ?_
  obtain ⟨name, -, rfl⟩ := List.mem_map.mp mem
  exact .string name

/-- The members of a payload are lists of lists at most, and hold no doubles. -/
theorem Payload.integral_members (payload : Payload) (depth : Nat) :
    ∀ member ∈ payload.members, member.2.Integral (depth + 2) := by
  intro member mem
  cases payload with
  | single refinement patterns =>
      rcases List.mem_cons.mp mem with rfl | other
      · exact .integer (Json.Number.fits_toNat refinement)
      · rw [List.mem_singleton.mp other]
        exact integral_namesJson _ patterns
  | steps refinements =>
      rw [List.mem_singleton.mp mem]
      refine .array fun item mem => ?_
      obtain ⟨names, -, rfl⟩ := List.mem_map.mp mem
      exact integral_namesJson depth names

/-! ## Its members -/

theorem textOf?_string (text : String) : textOf? (.string text) = some text := rfl

theorem mapM_map_eq_some {α β : Type} {read : β → Option α} {write : α → β}
    (each : ∀ x, read (write x) = some x) (xs : List α) : (xs.map write).mapM read = some xs := by
  induction xs with
  | nil => rfl
  | cons x rest ih =>
      rw [List.map_cons, List.mapM_cons, each, ih]
      rfl

theorem namesOf?_namesJson (names : List PatternName) : namesOf? (namesJson names) = some names :=
  mapM_map_eq_some textOf?_string names

theorem refinementOf?_toNat (n : UInt32) :
    refinementOf? (.number (.integer n.toNat)) = some n := by
  have bounds : 0 ≤ (n.toNat : Int) ∧ (n.toNat : Int) < UInt32.size :=
    ⟨Int.natCast_nonneg _, Int.ofNat_lt.mpr n.toNat_lt⟩
  rw [refinementOf?, if_pos bounds, Int.toNat_natCast, UInt32.ofNat_toNat]

/-- The members of a payload ask for it, whatever members with other names stand before them. -/
theorem Payload.ofMembers?_append (front : List (String × Value))
    (other : ∀ member ∈ front, member.1 = "projectName") (payload : Payload) :
    Payload.ofMembers? (front ++ payload.members) = some payload := by
  have skip {name : String} (different : "projectName" ≠ name) (members : List (String × Value)) :
      onlyValue? name (front ++ members) = onlyValue? name members := by
    have none : front.filter (·.1 == name) = [] := by
      rw [List.filter_eq_nil_iff]
      intro member mem
      rw [other member mem, beq_iff_eq]
      exact different
    rw [onlyValue?, onlyValue?, valuesOf, valuesOf, List.filter_append, none, List.nil_append]
  rw [ofMembers?, singleOf?, stepsOf?, skip (by decide), skip (by decide), skip (by decide)]
  cases payload with
  | single refinement patterns =>
      have number : onlyValue? "refinement" (single refinement patterns).members =
          some (.number (.integer refinement.toNat)) := rfl
      have names : onlyValue? "patterns" (single refinement patterns).members =
          some (namesJson patterns) := rfl
      rw [number, names, Option.bind_some, Option.bind_some, refinementOf?_toNat,
        namesOf?_namesJson]
      rfl
  | steps refinements =>
      have lists : onlyValue? "refinements" (steps refinements).members =
          some (.array (refinements.map namesJson)) := rfl
      rw [lists, Option.bind_some, nameListsOf?, mapM_map_eq_some namesOf?_namesJson]
      rfl

theorem Payload.valuesOf_projectName (payload : Payload) :
    valuesOf "projectName" payload.members = [] := by
  cases payload <;> rfl

/-! ## The request -/

namespace GenerationRequest

theorem integral_toJson (request : GenerationRequest) :
    request.toJson.Integral Json.maxDepth := by
  have members := request.payload.integral_members 124
  rw [toJson]
  split
  · refine .object fun member mem => ?_
    rcases List.mem_cons.mp mem with rfl | other
    · exact .string _
    · exact members member other
  · exact .object members

theorem ofJson?_toJson (request : GenerationRequest) : ofJson? request.toJson = some request := by
  obtain ⟨projectName?, payload⟩ := request
  cases projectName? with
  | some name =>
      have project : projectOf? (("projectName", .string name) :: payload.members) =
          some (some name) := by
        have only : valuesOf "projectName" (("projectName", .string name) :: payload.members) =
            [.string name] :=
          congrArg (List.cons (Value.string name)) payload.valuesOf_projectName
        rw [projectOf?, only]
      have read := Payload.ofMembers?_append [("projectName", .string name)]
        (fun member mem => by rw [List.mem_singleton.mp mem]) payload
      rw [List.singleton_append] at read
      show ofJson? (.object (("projectName", .string name) :: payload.members)) = _
      rw [ofJson?, project, read]
  | none =>
      have project : projectOf? payload.members = some none := by
        rw [projectOf?, payload.valuesOf_projectName]
      have read := Payload.ofMembers?_append [] (List.forall_mem_nil _) payload
      rw [List.nil_append] at read
      show ofJson? (.object payload.members) = _
      rw [ofJson?, project, read]

/-- The body of a request is read as the value that was written. -/
theorem read?_body (request : GenerationRequest) :
    Json.read? request.body = some request.toJson := by
  have integral := request.integral_toJson
  rw [body, Json.read?_compactText integral.fits, integral.reread_eq]

/-- **The body of a request asks for that request.** -/
theorem ofBody?_body (request : GenerationRequest) :
    ofBody? request.body.toUTF8 = some request := by
  rw [ofBody?, Json.readBytes?_toUTF8, read?_body, Option.bind_some, ofJson?_toJson]

/-! ## Bodies that are written anew -/

/-- The body of the request that a body asks for, if it asks for one. -/
def rewritten? (bytes : ByteArray) : Option ByteArray :=
  (ofBody? bytes).map fun request => request.body.toUTF8

/-- A body that is written anew asks for the same request as before, and if it was refused, there is
nothing to be written. -/
theorem ofBody?_rewritten? (bytes : ByteArray) :
    (rewritten? bytes).bind ofBody? = ofBody? bytes := by
  rw [rewritten?]
  cases ofBody? bytes with
  | none => rfl
  | some request => rw [Option.map_some, Option.bind_some, ofBody?_body]

/-- **Requests and their bodies determine each other.**  The text of a request is read as the value
that was written, and that is a value of this request.  Another request has another text.  A body
that is accepted, whoever wrote it, is written anew once: what comes out asks for the same request
and is written anew as itself. -/
theorem body_determines (request : GenerationRequest) (bytes : ByteArray) :
    (Json.read? request.body = some request.toJson ∧ ofJson? request.toJson = some request) ∧
      (∀ other : GenerationRequest, other ≠ request → other.body ≠ request.body) ∧
      (rewritten? bytes).bind ofBody? = ofBody? bytes ∧
      (rewritten? bytes).bind rewritten? = rewritten? bytes := by
  refine ⟨⟨read?_body request, ofJson?_toJson request⟩, ?_, ofBody?_rewritten? bytes, ?_⟩
  · intro other different same
    apply different
    have read := ofBody?_body other
    rw [same, ofBody?_body] at read
    exact (Option.some.inj read).symm
  · calc (rewritten? bytes).bind rewritten?
        = ((rewritten? bytes).bind ofBody?).map fun request => request.body.toUTF8 := by
          rw [Option.map_bind]
          rfl
      _ = rewritten? bytes := by rw [ofBody?_rewritten?, rewritten?]

end GenerationRequest

end PatternRefinement
