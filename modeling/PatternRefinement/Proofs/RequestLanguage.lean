import PatternRefinement.Proofs.Json.Spelling
import PatternRefinement.Proofs.RequestRoundTrip

/-!
# Which bodies ask for a request

## Main Definitions

* `Sole` — a member that is the only one of its name
* `NamesProject`, `AsksForSelection`, `AsksForSteps`, `AsksFor` — what members ask for
* `askedNames` — the four names that matter

## Main Statements

* `GenerationRequest.ofBody?_eq_some_iff` — the request that a body asks for, by its members
* `GenerationRequest.ofJson?_congr` — only members with these names matter, and not their order
* `GenerationRequest.ofBody?_by_members` — the language of bodies

## Design Notes

A payload that cannot be used is not told from one that is not there, so a body may ask for steps
although it has members of a numbered selection, repeated or unfit.  The project is no part of a
payload, and a body that spoils it asks for nothing.
-/

namespace PatternRefinement

open Json (Value Spelled spelledMembersOfBytes?)

/-! ## What members ask for -/

/-- A member is there that has a name, and no other one has it. -/
def Sole {α : Type} (members : List (String × α)) (name : String) (value : α) : Prop :=
  ∃ before behind, members = before ++ (name, value) :: behind ∧
    ∀ other ∈ before ++ behind, other.1 ≠ name

/-- Members name a project, or none: at most one of them does, by a string or by null. -/
def NamesProject (members : List (String × Spelled)) (project? : Option String) : Prop :=
  (project? = none ∧ ∀ member ∈ members, member.1 ≠ "projectName") ∨
  ∃ found, Sole members "projectName" found ∧
    (found.value = .null ∧ project? = none ∨
      ∃ name, found.value = .string name ∧ project? = some name)

/-- Members ask for one numbered selection.  The number has to be spelled with its digits alone,
without a sign, a fraction or an exponent. -/
def AsksForSelection (members : List (String × Spelled)) (refinement : UInt32)
    (patterns : List PatternName) : Prop :=
  (∃ found, Sole members "refinement" found ∧
    found.spelling = Nat.toDigits 10 refinement.toNat) ∧
  ∃ found, Sole members "patterns" found ∧ found.value = .array (patterns.map .string)

/-- Members ask for a selection for each step. -/
def AsksForSteps (members : List (String × Spelled)) (refinements : List (List PatternName)) :
    Prop :=
  ∃ found, Sole members "refinements" found ∧
    found.value = .array (refinements.map fun names => .array (names.map .string))

/-- Members ask for a request.  The numbered selection goes before the selections of steps, which
count if there is none that can be used. -/
def AsksFor (members : List (String × Spelled)) (request : GenerationRequest) : Prop :=
  NamesProject members request.projectName? ∧
    ((∃ refinement patterns, AsksForSelection members refinement patterns ∧
        request.payload = .single refinement patterns) ∨
      (∀ refinement patterns, ¬AsksForSelection members refinement patterns) ∧
        ∃ refinements, AsksForSteps members refinements ∧ request.payload = .steps refinements)

/-- The names of the members that matter. -/
def askedNames : List String := ["projectName", "refinement", "patterns", "refinements"]

/-! ## Members of one name -/

theorem filter_eq_singleton_iff {α : Type} {items : List α} {p : α → Bool} {x : α} :
    items.filter p = [x] ↔ p x = true ∧
      ∃ before behind, items = before ++ x :: behind ∧ ∀ y ∈ before ++ behind, p y = false := by
  rw [List.filter_eq_cons_iff]
  constructor
  · rintro ⟨before, behind, rfl, none_before, holds, none_behind⟩
    refine ⟨holds, before, behind, rfl, fun y mem => ?_⟩
    rcases List.mem_append.mp mem with inside | inside
    · exact Bool.eq_false_iff.mpr (none_before y inside)
    · exact Bool.eq_false_iff.mpr (List.filter_eq_nil_iff.mp none_behind y inside)
  · rintro ⟨holds, before, behind, rfl, none⟩
    refine ⟨before, behind, rfl, fun y mem => ?_, holds, List.filter_eq_nil_iff.mpr fun y mem => ?_⟩
    · exact Bool.eq_false_iff.mp (none y (List.mem_append_left _ mem))
    · exact Bool.eq_false_iff.mp (none y (List.mem_append_right _ mem))

theorem valuesOf_plain (name : String) (members : List (String × Spelled)) :
    valuesOf name (members.map Spelled.plain) =
      (members.filter (·.1 == name)).map (·.2.value) := by
  rw [valuesOf, List.filter_map, List.map_map]
  rfl

/-- The only value of a name is that of its sole member. -/
theorem valuesOf_eq_singleton_iff {name : String} {members : List (String × Spelled)}
    {value : Value} : valuesOf name (members.map Spelled.plain) = [value] ↔
      ∃ found, Sole members name found ∧ found.value = value := by
  rw [valuesOf_plain, List.map_eq_singleton_iff]
  constructor
  · rintro ⟨⟨other, found⟩, only, rfl⟩
    obtain ⟨same, before, behind, split, none⟩ := filter_eq_singleton_iff.mp only
    obtain rfl : other = name := eq_of_beq same
    exact ⟨found, ⟨before, behind, split, fun y mem => by simpa using none y mem⟩, rfl⟩
  · rintro ⟨found, ⟨before, behind, split, none⟩, rfl⟩
    exact ⟨(name, found), filter_eq_singleton_iff.mpr ⟨BEq.rfl, before, behind, split,
      fun y mem => by simpa using none y mem⟩, rfl⟩

theorem valuesOf_eq_nil_iff {name : String} {members : List (String × Spelled)} :
    valuesOf name (members.map Spelled.plain) = [] ↔ ∀ member ∈ members, member.1 ≠ name := by
  rw [valuesOf_plain, List.map_eq_nil_iff, List.filter_eq_nil_iff]
  simp

theorem onlyValue?_eq_some_iff {name : String} {members : List (String × Spelled)} {value : Value} :
    onlyValue? name (members.map Spelled.plain) = some value ↔
      ∃ found, Sole members name found ∧ found.value = value := by
  rw [← valuesOf_eq_singleton_iff, onlyValue?]
  split <;> simp_all

theorem Sole.mem {α : Type} {members : List (String × α)} {name : String} {value : α}
    (sole : Sole members name value) : (name, value) ∈ members := by
  obtain ⟨before, behind, rfl, -⟩ := sole
  exact List.mem_append_right _ List.mem_cons_self

/-! ## The values that fit -/

theorem mapM_eq_some_iff {α β : Type} {read : β → Option α} {write : α → β}
    (each : ∀ y x, read y = some x ↔ y = write x) {ys : List β} {xs : List α} :
    ys.mapM read = some xs ↔ ys = xs.map write := by
  constructor
  · intro h
    induction ys generalizing xs with
    | nil =>
        obtain rfl := Option.some.inj h
        rfl
    | cons y rest ih =>
        rw [List.mapM_cons] at h
        obtain ⟨x, first, h⟩ := Option.bind_eq_some_iff.mp h
        obtain ⟨others, behind, h⟩ := Option.bind_eq_some_iff.mp h
        obtain rfl := Option.some.inj h
        rw [(each y x).mp first, ih behind, List.map_cons]
  · rintro rfl
    exact mapM_map_eq_some (fun x => (each (write x) x).mpr rfl) xs

theorem textOf?_eq_some_iff (value : Value) (text : String) :
    textOf? value = some text ↔ value = .string text := by
  cases value <;> simp [textOf?]

theorem namesOf?_eq_some_iff (value : Value) (names : List PatternName) :
    namesOf? value = some names ↔ value = .array (names.map .string) := by
  cases value <;> simp [namesOf?, mapM_eq_some_iff textOf?_eq_some_iff]

theorem nameListsOf?_eq_some_iff (value : Value) (lists : List (List PatternName)) :
    nameListsOf? value = some lists ↔
      value = .array (lists.map fun names => .array (names.map .string)) := by
  cases value <;> simp [nameListsOf?, mapM_eq_some_iff namesOf?_eq_some_iff]

theorem refinementOf?_eq_some_iff (value : Value) (refinement : UInt32) :
    refinementOf? value = some refinement ↔ value = .number (.integer refinement.toNat) := by
  constructor
  · intro h
    unfold refinementOf? at h
    split at h
    · split at h
      · rename_i n bounds
        have size : (UInt32.size : Int) = 2 ^ 32 := rfl
        have room : n.toNat < 2 ^ 32 := by omega
        obtain rfl := Option.some.inj h
        rw [UInt32.toNat_ofNat_of_lt' room, Int.toNat_of_nonneg bounds.1]
      · cases h
    · cases h
  · rintro rfl
    exact refinementOf?_toNat refinement

/-! ## The parts of a request -/

section Members

variable {members : List (String × Spelled)}

theorem projectOf?_eq_some_iff {project? : Option String} :
    projectOf? (members.map Spelled.plain) = some project? ↔ NamesProject members project? := by
  rw [NamesProject, ← valuesOf_eq_nil_iff]
  have sole (value : Value) : valuesOf "projectName" (members.map Spelled.plain) = [value] ↔
      ∃ found, Sole members "projectName" found ∧ found.value = value := valuesOf_eq_singleton_iff
  constructor
  · intro h
    unfold projectOf? at h
    split at h
    · rename_i none
      exact Or.inl ⟨(Option.some.inj h).symm, none⟩
    · rename_i only
      obtain ⟨found, only, null⟩ := (sole _).mp only
      exact Or.inr ⟨found, only, Or.inl ⟨null, (Option.some.inj h).symm⟩⟩
    · rename_i name only
      obtain ⟨found, only, text⟩ := (sole _).mp only
      exact Or.inr ⟨found, only, Or.inr ⟨name, text, (Option.some.inj h).symm⟩⟩
    · cases h
  · rintro (⟨rfl, none⟩ | ⟨found, only, ⟨null, rfl⟩ | ⟨name, text, rfl⟩⟩)
    · rw [projectOf?, none]
    · rw [projectOf?, (sole _).mpr ⟨found, only, null⟩]
    · rw [projectOf?, (sole _).mpr ⟨found, only, text⟩]

theorem bind_onlyValue?_eq_some_iff {α : Type} {name : String} {read : Value → Option α}
    {write : α → Value} (each : ∀ value x, read value = some x ↔ value = write x) {x : α} :
    (onlyValue? name (members.map Spelled.plain)).bind read = some x ↔
      ∃ found, Sole members name found ∧ found.value = write x := by
  rw [← onlyValue?_eq_some_iff, Option.bind_eq_some_iff]
  simp only [each, exists_eq_right]

/-- Members that were read ask for a numbered selection by the spelling of the number. -/
theorem singleOf?_eq_some_iff {bytes : ByteArray}
    (read : spelledMembersOfBytes? bytes = some members) {payload : Payload} :
    Payload.singleOf? (members.map Spelled.plain) = some payload ↔
      ∃ refinement patterns, AsksForSelection members refinement patterns ∧
        payload = .single refinement patterns := by
  have spelled (refinement : UInt32) : (∃ found, Sole members "refinement" found ∧
      found.spelling = Nat.toDigits 10 refinement.toNat) ↔
      (onlyValue? "refinement" (members.map Spelled.plain)).bind refinementOf? =
        some refinement := by
    rw [bind_onlyValue?_eq_some_iff refinementOf?_eq_some_iff]
    refine exists_congr fun found => and_congr_right fun only => ?_
    have room := refinement.toNat_lt
    exact Json.spelling_of_mem read only.mem (by omega)
  simp only [AsksForSelection, spelled, ← bind_onlyValue?_eq_some_iff namesOf?_eq_some_iff]
  rw [Payload.singleOf?]
  cases (onlyValue? "refinement" (members.map Spelled.plain)).bind refinementOf? with
  | none => simp
  | some refinement =>
      cases (onlyValue? "patterns" (members.map Spelled.plain)).bind namesOf? with
      | none => simp
      | some patterns => simp [eq_comm]

theorem stepsOf?_eq_some_iff {payload : Payload} :
    Payload.stepsOf? (members.map Spelled.plain) = some payload ↔
      ∃ refinements, AsksForSteps members refinements ∧ payload = .steps refinements := by
  simp only [AsksForSteps, ← bind_onlyValue?_eq_some_iff nameListsOf?_eq_some_iff, Payload.stepsOf?,
    Option.map_eq_some_iff, eq_comm (a := payload)]

end Members

namespace GenerationRequest

/-- The request that the members of an object ask for has its project and its payload from them. -/
theorem ofJson?_object_eq_some_iff {members : List (String × Value)} {request : GenerationRequest} :
    ofJson? (.object members) = some request ↔ projectOf? members = some request.projectName? ∧
      Payload.ofMembers? members = some request.payload := by
  rw [ofJson?]
  obtain ⟨project?, payload⟩ := request
  cases projectOf? members with
  | none => simp
  | some found =>
      cases Payload.ofMembers? members with
      | none => simp
      | some asked => simp

/-- Bytes that hold no object ask for nothing. -/
theorem ofBody?_eq_some {bytes : ByteArray} {request : GenerationRequest}
    (h : ofBody? bytes = some request) : ∃ members,
      Json.readBytes? bytes = some (.object members) ∧
        ofJson? (.object members) = some request := by
  obtain ⟨value, read, asked⟩ := Option.bind_eq_some_iff.mp h
  cases value with
  | object members => exact ⟨members, read, asked⟩
  | null => cases asked
  | bool b => cases asked
  | number n => cases asked
  | string text => cases asked
  | array items => cases asked

/-- The request that a body asks for, by the members that it is read to have. -/
theorem ofBody?_iff_members {bytes : ByteArray} {request : GenerationRequest} :
    ofBody? bytes = some request ↔ ∃ members, spelledMembersOfBytes? bytes = some members ∧
      projectOf? (members.map Spelled.plain) = some request.projectName? ∧
      Payload.ofMembers? (members.map Spelled.plain) = some request.payload := by
  constructor
  · intro h
    obtain ⟨plain, read, asked⟩ := ofBody?_eq_some h
    obtain ⟨members, found, rfl⟩ := Json.readBytes?_object_iff.mp read
    exact ⟨members, found, ofJson?_object_eq_some_iff.mp asked⟩
  · rintro ⟨members, found, asked⟩
    rw [ofBody?, Json.readBytes?_object_iff.mpr ⟨members, found, rfl⟩, Option.bind_some]
    exact ofJson?_object_eq_some_iff.mpr asked

/-- The first payload is tried before the second one. -/
theorem ofMembers?_eq_some_iff {bytes : ByteArray} {members : List (String × Spelled)}
    (read : spelledMembersOfBytes? bytes = some members) {payload : Payload} :
    Payload.ofMembers? (members.map Spelled.plain) = some payload ↔
      (∃ refinement patterns, AsksForSelection members refinement patterns ∧
        payload = .single refinement patterns) ∨
      (∀ refinement patterns, ¬AsksForSelection members refinement patterns) ∧
        ∃ refinements, AsksForSteps members refinements ∧ payload = .steps refinements := by
  have single := @singleOf?_eq_some_iff members bytes read
  rw [← single, ← stepsOf?_eq_some_iff, Payload.ofMembers?]
  cases found : Payload.singleOf? (members.map Spelled.plain) with
  | some first =>
      obtain ⟨refinement, patterns, asks, -⟩ := single.mp found
      simp only [Option.orElse_some]
      exact ⟨Or.inl, fun h => h.resolve_right fun other => other.1 _ _ asks⟩
  | none =>
      have unfit (refinement : UInt32) (patterns : List PatternName) :
          ¬AsksForSelection members refinement patterns := fun asks => by
        cases found.symm.trans (single.mpr ⟨refinement, patterns, asks, rfl⟩)
      simp only [Option.orElse_none]
      exact ⟨fun h => Or.inr ⟨unfit, h⟩, fun h => (h.resolve_left (Option.some_ne_none _).symm).2⟩

theorem ofBody?_eq_some_iff {bytes : ByteArray} {request : GenerationRequest} :
    ofBody? bytes = some request ↔
      ∃ members, spelledMembersOfBytes? bytes = some members ∧ AsksFor members request := by
  rw [ofBody?_iff_members]
  refine exists_congr fun members => and_congr_right fun read => ?_
  rw [projectOf?_eq_some_iff, ofMembers?_eq_some_iff read, AsksFor]

/-- Members ask for some request if they name a project, or none, and have one of the payloads. -/
theorem exists_asksFor_iff {members : List (String × Spelled)} :
    (∃ request, AsksFor members request) ↔ (∃ project?, NamesProject members project?) ∧
      ((∃ refinement patterns, AsksForSelection members refinement patterns) ∨
        ∃ refinements, AsksForSteps members refinements) := by
  constructor
  · rintro ⟨request, named, ⟨refinement, patterns, asks, -⟩ | ⟨-, refinements, asks, -⟩⟩
    · exact ⟨⟨_, named⟩, Or.inl ⟨refinement, patterns, asks⟩⟩
    · exact ⟨⟨_, named⟩, Or.inr ⟨refinements, asks⟩⟩
  · rintro ⟨⟨project?, named⟩, payload⟩
    by_cases single : ∃ refinement patterns, AsksForSelection members refinement patterns
    · obtain ⟨refinement, patterns, asks⟩ := single
      exact ⟨⟨project?, .single refinement patterns⟩, named,
        Or.inl ⟨refinement, patterns, asks, rfl⟩⟩
    · obtain ⟨refinements, asks⟩ := payload.resolve_left single
      exact ⟨⟨project?, .steps refinements⟩, named, Or.inr
        ⟨fun refinement patterns asks => single ⟨refinement, patterns, asks⟩, refinements, asks,
          rfl⟩⟩

/-! ## Members that do not matter -/

/-- Two lists of the same items are equal or have more items than one. -/
theorem eq_or_two_le_of_perm {α : Type} {items others : List α} (same : items.Perm others) :
    items = others ∨ 2 ≤ items.length ∧ 2 ≤ others.length := by
  match items, same with
  | [], same => exact Or.inl (List.nil_perm.mp same).symm
  | [x], same => exact Or.inl (List.singleton_perm.mp same)
  | x :: y :: rest, same =>
      have few : 2 ≤ (x :: y :: rest).length := by simp
      exact Or.inr ⟨few, same.length_eq ▸ few⟩

variable {members others : List (String × Value)} {name : String}

theorem valuesOf_filter (asked : name ∈ askedNames) :
    valuesOf name (members.filter (·.1 ∈ askedNames)) = valuesOf name members := by
  rw [valuesOf, valuesOf, List.filter_filter]
  congr 1
  refine List.filter_congr fun member _ => ?_
  by_cases same : member.1 = name <;> simp [same, asked]

theorem valuesOf_perm (asked : name ∈ askedNames)
    (same : (members.filter (·.1 ∈ askedNames)).Perm (others.filter (·.1 ∈ askedNames))) :
    (valuesOf name members).Perm (valuesOf name others) := by
  have here : valuesOf name (members.filter (·.1 ∈ askedNames)) = valuesOf name members :=
    valuesOf_filter asked
  have there : valuesOf name (others.filter (·.1 ∈ askedNames)) = valuesOf name others :=
    valuesOf_filter asked
  rw [← here, ← there]
  exact (same.filter _).map _

theorem onlyValue?_congr (asked : name ∈ askedNames)
    (same : (members.filter (·.1 ∈ askedNames)).Perm (others.filter (·.1 ∈ askedNames))) :
    onlyValue? name members = onlyValue? name others := by
  have many {items : List (String × Value)} (two : 2 ≤ (valuesOf name items).length) :
      onlyValue? name items = none := by
    unfold onlyValue?
    split
    · rename_i one
      rw [one] at two
      simp at two
    · rfl
  rcases eq_or_two_le_of_perm (valuesOf_perm asked same) with equal | ⟨two, twice⟩
  · rw [onlyValue?, onlyValue?, equal]
  · rw [many two, many twice]

theorem projectOf?_congr
    (same : (members.filter (·.1 ∈ askedNames)).Perm (others.filter (·.1 ∈ askedNames))) :
    projectOf? members = projectOf? others := by
  have many {items : List (String × Value)} (two : 2 ≤ (valuesOf "projectName" items).length) :
      projectOf? items = none := by
    unfold projectOf?
    split
    · rename_i none
      simp [none] at two
    · rename_i one
      simp [one] at two
    · rename_i one
      simp [one] at two
    · rfl
  have asked : "projectName" ∈ askedNames := by decide
  rcases eq_or_two_le_of_perm (valuesOf_perm asked same) with equal | ⟨two, twice⟩
  · rw [projectOf?, projectOf?, equal]
  · rw [many two, many twice]

/-- **Only members with the names that matter do, and not their order.** -/
theorem ofJson?_congr
    (same : (members.filter (·.1 ∈ askedNames)).Perm (others.filter (·.1 ∈ askedNames))) :
    ofJson? (.object members) = ofJson? (.object others) := by
  have only {name : String} (asked : name ∈ askedNames) :
      onlyValue? name members = onlyValue? name others := onlyValue?_congr asked same
  have payload : Payload.ofMembers? members = Payload.ofMembers? others := by
    rw [Payload.ofMembers?, Payload.ofMembers?, Payload.singleOf?, Payload.singleOf?,
      Payload.stepsOf?, Payload.stepsOf?, only (show "refinement" ∈ askedNames by decide),
      only (show "patterns" ∈ askedNames by decide),
      only (show "refinements" ∈ askedNames by decide)]
  rw [ofJson?, ofJson?, projectOf?_congr same, payload]

/-! ## All bodies -/

/-- **The language of bodies.**  A body asks for a request if it is an object of which at most one
member names a project, and that by a string or null, and which has either one number of a
refinement, spelled with its digits alone and held by 32 bits, and one array of patterns, or one
array of such arrays.  What it asks for is the numbered selection if that is there, whatever else
is, and the selections of steps otherwise.  Two bodies whose members of these four names are the
same, in whatever order, ask for the same. -/
theorem ofBody?_by_members (bytes : ByteArray) :
    (∀ plain, Json.readBytes? bytes = some (.object plain) ↔
      ∃ members, spelledMembersOfBytes? bytes = some members ∧
        members.map Spelled.plain = plain) ∧
    (∀ request, ofBody? bytes = some request ↔
      ∃ members, spelledMembersOfBytes? bytes = some members ∧ AsksFor members request) ∧
    ((∃ request, ofBody? bytes = some request) ↔
      ∃ members, spelledMembersOfBytes? bytes = some members ∧
        (∃ project?, NamesProject members project?) ∧
        ((∃ refinement patterns, AsksForSelection members refinement patterns) ∨
          ∃ refinements, AsksForSteps members refinements)) ∧
    ∀ other members others, Json.readBytes? bytes = some (.object members) →
      Json.readBytes? other = some (.object others) →
      (members.filter (·.1 ∈ askedNames)).Perm (others.filter (·.1 ∈ askedNames)) →
      ofBody? other = ofBody? bytes := by
  refine ⟨fun plain => Json.readBytes?_object_iff, fun request => ofBody?_eq_some_iff, ?_, ?_⟩
  · simp only [ofBody?_eq_some_iff, exists_comm (α := GenerationRequest), exists_and_left,
      exists_asksFor_iff]
  · intro other members others read readOther same
    rw [ofBody?, ofBody?, read, readOther, Option.bind_some, Option.bind_some, ofJson?_congr same]

end GenerationRequest

end PatternRefinement
