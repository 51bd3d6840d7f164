import PatternRefinement.Settings

/-!
# Where a setting comes from

## Main Definitions

* `Prevails` — the value of the highest layer that sets one
* `Settings.Refused` — there are no settings, because of the settings file
* `Settings.inFile?` — what the settings file sets a setting to
* `Settings.Agree` — two settings files say the same of the settings that are known

## Main Statements

* `Overrides.ofMembers?_eq_some_iff` — the layer that a table is read as
* `Settings.load_of_refused`, `Settings.load_of_not_refused` — what the layers below the command
  line come to
* `Settings.load_congr` — what else stands in a settings file does not matter

## Design Notes

A layer that replaces settings one by one leaves those that it does not set, so a setting that was
replaced several times has the value of the layer that came last.  Here the layers stand in one list
for each setting, and no other setting occurs in it.
-/

namespace PatternRefinement

/-! ## Layers -/

/-- A setting has the value of the highest layer that sets it, and no value if no layer does.  The
layers stand in their order, the highest one first. -/
inductive Prevails {α : Type} : List (Option α) → Option α → Prop where
  | unset : Prevails [] none
  | set (value : α) (below : List (Option α)) : Prevails (some value :: below) (some value)
  | skip {below : List (Option α)} {value? : Option α} (prevails : Prevails below value?) :
      Prevails (none :: below) value?

section

variable {α : Type} {below : List (Option α)}

/-- A layer on top goes before all others. -/
theorem Prevails.orElse {value? : Option α} (prevails : Prevails below value?)
    (layer : Option α) : Prevails (layer :: below) (layer.orElse fun _ => value?) := by
  cases layer with
  | none => exact .skip prevails
  | some value => exact .set value below

theorem Prevails.getD {value : α} (prevails : Prevails below (some value)) (layer : Option α) :
    Prevails (layer :: below) (some (layer.getD value)) := by
  have same : some (layer.getD value) = layer.orElse fun _ => some value := by
    cases layer <;> rfl
  exact same ▸ prevails.orElse layer

/-- Two layers on top of which one goes before the other. -/
theorem Prevails.getD_orElse {value : α} (prevails : Prevails below (some value))
    (upper lower : Option α) :
    Prevails (upper :: lower :: below) (some ((upper.orElse fun _ => lower).getD value)) := by
  have same : (upper.orElse fun _ => lower).getD value = upper.getD (lower.getD value) := by
    cases upper <;> rfl
  exact same ▸ (prevails.getD lower).getD upper

end

/-! ## Settings files -/

/-- The text that a value of a settings file is, if it is one. -/
def Toml.Value.text? : Toml.Value → Option String
  | .string text => some text
  | _ => none

/-- What a table has under a name is a text, if it has anything there. -/
def Toml.Textual (members : Toml.Members) (name : String) : Prop :=
  ∀ value, members.lookup name = some value → ∃ text, value = .string text

/-- The names of the settings in a settings file. -/
def Settings.names : List String := ["server_url", "download_dir", "state_path", "project_name"]

namespace Overrides

/-- A setting in a settings file is read if it is a text or is not there. -/
theorem setting?_eq_some_iff {name : String} {members : Toml.Members} {value? : Option String} :
    setting? name members = some value? ↔
      Toml.Textual members name ∧ (members.lookup name).bind Toml.Value.text? = value? := by
  unfold setting? Toml.Textual
  cases members.lookup name with
  | none => simp
  | some value => cases value <;> simp [Toml.Value.text?]

/-- The settings that a table sets to a text. -/
def inMembers (members : Toml.Members) : Overrides :=
  { serverUrl? := (members.lookup "server_url").bind Toml.Value.text?
    downloadDirectory? := (members.lookup "download_dir").bind Toml.Value.text?
    statePath? := (members.lookup "state_path").bind Toml.Value.text?
    projectName? := (members.lookup "project_name").bind Toml.Value.text? }

/-- **A table is read if the settings that it has are texts**, whatever else it has. -/
theorem ofMembers?_eq_some_iff {members : Toml.Members} {layer : Overrides} :
    ofMembers? members = some layer ↔
      (∀ name ∈ Settings.names, Toml.Textual members name) ∧ inMembers members = layer := by
  constructor
  · intro read
    unfold ofMembers? at read
    split at read
    · rename_i server download state project
      obtain rfl := Option.some.inj read
      obtain ⟨serverText, rfl⟩ := setting?_eq_some_iff.mp server
      obtain ⟨downloadText, rfl⟩ := setting?_eq_some_iff.mp download
      obtain ⟨stateText, rfl⟩ := setting?_eq_some_iff.mp state
      obtain ⟨projectText, rfl⟩ := setting?_eq_some_iff.mp project
      refine ⟨fun name mem => ?_, rfl⟩
      simp only [Settings.names, List.mem_cons, List.not_mem_nil, or_false] at mem
      rcases mem with rfl | rfl | rfl | rfl <;> assumption
    · cases read
  · rintro ⟨textual, rfl⟩
    have each {name : String} (mem : name ∈ Settings.names) :
        setting? name members = some ((members.lookup name).bind Toml.Value.text?) :=
      setting?_eq_some_iff.mpr ⟨textual name mem, rfl⟩
    rw [ofMembers?, each (by decide), each (by decide), each (by decide), each (by decide)]
    rfl

/-- What else a table has does not matter. -/
theorem ofMembers?_congr {members others : Toml.Members}
    (same : ∀ name ∈ Settings.names, members.lookup name = others.lookup name) :
    ofMembers? members = ofMembers? others := by
  have each {name : String} (mem : name ∈ Settings.names) :
      setting? name members = setting? name others := by
    rw [setting?, setting?, same name mem]
  rw [ofMembers?, ofMembers?, each (by decide), each (by decide), each (by decide),
    each (by decide)]

end Overrides

namespace Settings

/-- The path of the settings file that counts. -/
def filePath (asked? : Option String) : String := asked?.getD usualFile

/-- There are no settings, because of the settings file. -/
inductive Refused (files : FileTree) (asked? : Option String) : Prop where
  /-- A file was asked for that cannot be read as text. -/
  | unreadable {path : String} (asked : asked? = some path) (unread : files.readText? path = none)
  /-- The text that was read is no table whose settings are texts. -/
  | malformed {text : String} (read : files.readText? (filePath asked?) = some text)
      (other : ¬∃ members, Toml.read? text = some members ∧
        ∀ name ∈ names, Toml.Textual members name)

/-- What the settings file sets a setting to, if there is one and it does. -/
def inFile? (files : FileTree) (asked? : Option String) (name : String) : Option String :=
  (((files.readText? (filePath asked?)).bind Toml.read?).bind (·.lookup name)).bind
    Toml.Value.text?

/-- The layer of the settings file. -/
def fileLayer (files : FileTree) (asked? : Option String) : Overrides :=
  { serverUrl? := inFile? files asked? "server_url"
    downloadDirectory? := inFile? files asked? "download_dir"
    statePath? := inFile? files asked? "state_path"
    projectName? := inFile? files asked? "project_name" }

/-- Two settings files say the same of the settings that are known. -/
def Agree (files others : FileTree) (asked? : Option String) : Prop :=
  ∃ text members other otherMembers,
    (files.readText? (filePath asked?) = some text ∧ Toml.read? text = some members) ∧
    (others.readText? (filePath asked?) = some other ∧ Toml.read? other = some otherMembers) ∧
    ∀ name ∈ names, members.lookup name = otherMembers.lookup name

variable {files : FileTree} {environment : Environment} {asked? : Option String}

/-- Where a settings file can be read, its layer is what counts. -/
theorem load_of_readText? {text : String} (read : files.readText? (filePath asked?) = some text) :
    load files environment asked? =
      match Overrides.ofFile? text with
      | none => .error (.malformed (filePath asked?))
      | some layer =>
        .ok (((default files environment).override layer).override
          (.ofEnvironment environment)) := by
  have found : fileText files asked? = .ok (some (filePath asked?, text)) := by
    cases asked? with
    | none => rw [fileText, show files.readText? usualFile = some text from read]; rfl
    | some path => rw [fileText, show files.readText? path = some text from read]; rfl
  cases layered : Overrides.ofFile? text <;> simp only [load, found, layered]

theorem fileLayer_of_readText? {text : String} {members : Toml.Members}
    (read : files.readText? (filePath asked?) = some text)
    (table : Toml.read? text = some members) :
    fileLayer files asked? = Overrides.inMembers members := by
  simp only [fileLayer, inFile?, read, table, Option.bind_some, Overrides.inMembers]

theorem override_unset (settings : Settings) :
    settings.override ⟨none, none, none, none⟩ = settings := rfl

/-- A settings file that cannot be used leaves no settings. -/
theorem load_of_refused (refused : Refused files asked?) :
    ∃ failure, load files environment asked? = .error failure := by
  cases refused with
  | @unreadable path asked unread =>
      subst asked
      refine ⟨.unreadable path, ?_⟩
      rw [load, fileText, unread]
  | @malformed text read other =>
      have none : Overrides.ofFile? text = none := by
        refine Option.eq_none_iff_forall_ne_some.mpr fun layer found => other ?_
        obtain ⟨members, table, layered⟩ := Option.bind_eq_some_iff.mp found
        exact ⟨members, table, (Overrides.ofMembers?_eq_some_iff.mp layered).1⟩
      refine ⟨.malformed (filePath asked?), ?_⟩
      rw [load_of_readText? read, none]

/-- **Otherwise the settings are those of the layers**, each of which replaces what it sets. -/
theorem load_of_not_refused (usable : ¬Refused files asked?) :
    load files environment asked? = .ok (((default files environment).override
      (fileLayer files asked?)).override (.ofEnvironment environment)) := by
  cases read : files.readText? (filePath asked?) with
  | none =>
      have usual : asked? = none := by
        cases asked? with
        | none => rfl
        | some path => exact absurd (.unreadable rfl read) usable
      subst usual
      have nothing : fileLayer files none = ⟨none, none, none, none⟩ := by
        simp only [fileLayer, inFile?, read, Option.bind_none]
      rw [load, fileText, show files.readText? usualFile = none from read, nothing, override_unset]
      rfl
  | some text =>
      obtain ⟨members, table, textual⟩ := Classical.not_not.mp fun other =>
        usable (.malformed read other)
      have layer : Overrides.ofFile? text = some (Overrides.inMembers members) := by
        rw [Overrides.ofFile?, table]
        exact Overrides.ofMembers?_eq_some_iff.mpr ⟨textual, rfl⟩
      rw [load_of_readText? read, layer, fileLayer_of_readText? read table]

/-- **What else stands in a settings file does not matter.** -/
theorem load_congr {others : FileTree} (agree : Agree files others asked?)
    (same : default others environment = default files environment) :
    load others environment asked? = load files environment asked? := by
  obtain ⟨text, members, other, otherMembers, ⟨read, table⟩, ⟨otherRead, otherTable⟩, known⟩ :=
    agree
  have layer : Overrides.ofFile? other = Overrides.ofFile? text := by
    rw [Overrides.ofFile?, Overrides.ofFile?, table, otherTable]
    exact (Overrides.ofMembers?_congr known).symm
  rw [load_of_readText? read, load_of_readText? otherRead, layer, same]

end Settings

end PatternRefinement
