import PatternRefinement.CommandLine.Reader
import PatternRefinement.Proofs.Text.Split

/-!
# Options in any combination

## Main Definitions

* `Spells` — words hold options with their values, each in one of two ways
* `Level.Regular` — a level whose options and commands cannot be taken for one another
* `Level.Admits` — options with values that a level takes
* `CommandLine.Orders` — a command with options orders a job

## Main Statements

* `Level.read_spelled` — a level reads the options that it admits, in any combination
* `CommandLine.readJob_of_orders` — a command is read with its options
* `CommandLine.exists_read_of_orders` — each option goes to the setting that it is for, whatever the
  command

## Design Notes

A value that is attached to its option may be any text, also one that looks like an option.  A value
in a word of its own may be the name of a command, but no option; a hyphen alone is none.  What is
kept between two options is told by what it comes to, as the value before may still have to be
judged.
-/

namespace PatternRefinement

/-! ## Words -/

/-- A word that holds an option with its value. -/
def attachedOption (option : String × String) : String :=
  "--" ++ option.1 ++ "=" ++ option.2

/-- A value that can stand in a word of its own. -/
def StandsAlone (value : String) : Prop := value.toList.head? ≠ some '-' ∨ value = "-"

/-- Words hold options with their values: a value is attached to its option, or it stands behind it
in a word of its own. -/
inductive Spells : List (String × String) → List String → Prop where
  | nil : Spells [] []
  | attached {options : List (String × String)} {words : List String} (name value : String)
      (rest : Spells options words) :
      Spells ((name, value) :: options) (attachedOption (name, value) :: words)
  | apart {options : List (String × String)} {words : List String} (name : String) {value : String}
      (alone : StandsAlone value) (rest : Spells options words) :
      Spells ((name, value) :: options) (("--" ++ name) :: value :: words)

theorem toList_attachedOption (name value : String) : (attachedOption (name, value)).toList =
    '-' :: '-' :: (name.toList ++ '=' :: value.toList) := by
  simp [attachedOption]

theorem Word.ofText_attachedOption {name : String} (plain : '=' ∉ name.toList) (value : String) :
    Word.ofText (attachedOption (name, value)) = .long name (some value) := by
  have parts := Text.cutAt_append plain value.toList
  rw [Word.ofText, toList_attachedOption]
  -- Two hyphens alone would end the options.
  cases tail : name.toList ++ '=' :: value.toList with
  | nil => exact absurd tail (by simp)
  | cons c others =>
      show Word.long (String.ofList (Text.cutAt '=' (c :: others)).1)
        ((Text.cutAt '=' (c :: others)).2.map String.ofList) = _
      rw [← tail, parts, String.ofList_toList, Option.map_some, String.ofList_toList]

theorem Word.ofText_option {name : String} (plain : '=' ∉ name.toList) (named : name ≠ "") :
    Word.ofText ("--" ++ name) = .long name none := by
  have parts := Text.cutAt_of_not_mem plain
  rw [Word.ofText, String.toList_append, show "--".toList = ['-', '-'] from rfl]
  cases letters : name.toList with
  | nil => exact absurd (String.toList_eq_nil_iff.mp letters) named
  | cons c others =>
      show Word.long (String.ofList (Text.cutAt '=' (c :: others)).1)
        ((Text.cutAt '=' (c :: others)).2.map String.ofList) = _
      rw [← letters, parts, String.ofList_toList, Option.map_none]

theorem Word.ofText_of_standsAlone {value : String} (alone : StandsAlone value) :
    Word.ofText value = .plain value := by
  rcases alone with other | rfl
  · rw [Word.ofText]
    split
    · rename_i letters
      exact absurd (congrArg List.head? letters) other
    · rename_i letters
      exact absurd (congrArg List.head? letters) other
    · rename_i letters
      exact absurd (congrArg List.head? letters) other
    · rfl
  · rfl

/-! ## Options that were given -/

namespace Given

/-- The value of an option is the first one that was given for it. -/
theorem value?_eq (given : Given) (name : String) :
    given.value? name = given.values.lookup name := by
  obtain ⟨values, open?⟩ := given
  rw [value?, valuesOf]
  induction values with
  | nil => rfl
  | cons option rest ih =>
      obtain ⟨other, value⟩ := option
      by_cases same : other = name
      · subst same
        simp
      · rw [List.filter_cons_of_neg (by simpa using same), ih, List.lookup_cons,
          beq_false_of_ne (Ne.symm same)]

/-- What was given comes to options with their values, and no option waits for one. -/
structure Holds (given : Given) (values : List (String × String)) : Prop where
  settle_eq : given.settle = .ok ⟨values, .none⟩
  awaitsValue_eq : given.awaitsValue = false

theorem holds_mk (values : List (String × String)) : (mk values .none).Holds values := ⟨rfl, rfl⟩

end Given

/-! ## Levels -/

namespace Level

/-- A level whose options and commands cannot be taken for one another, or for a question for
help. -/
structure Regular (level : Level) : Prop where
  commands_clear : ∀ command ∈ level.commands, command.toList.head? ≠ some '-'
  options_clear : ∀ rule ∈ level.options,
    rule.name ≠ "help" ∧ rule.name ≠ "" ∧ '=' ∉ rule.name.toList

/-- Options with values that a level takes: it knows them, a value is empty only where it may be,
and an option is given again only if it may be. -/
structure Admits (level : Level) (options : List (String × String)) : Prop where
  known : ∀ option ∈ options, ∃ rule, level.option? option.1 = some rule ∧
    (rule.admitsEmpty = true ∨ option.2 ≠ "")
  once : options.Pairwise fun first second => first.1 = second.1 →
    ∃ rule, level.option? second.1 = some rule ∧ rule.repeatable = true

variable {level : Level} {given : Given} {values options : List (String × String)}
  {name value : String} {rule : OptionRule} {words : List String}

theorem name_of_option? (found : level.option? name = some rule) : rule.name = name := by
  simpa using List.find?_some found

theorem Admits.of_append (admits : level.Admits (values ++ options)) : level.Admits values :=
  ⟨fun option mem => admits.known option (List.mem_append_left options mem),
    (List.pairwise_append.mp admits.once).1⟩

/-- An option that is admitted behind others is judged to be right. -/
theorem judge_of_admits (found : level.option? name = some rule)
    (admits : level.Admits (values ++ [(name, value)])) :
    (Given.mk values none).judge rule (some value) = .ok ⟨values ++ [(name, value)], none⟩ := by
  have named := name_of_option? found
  obtain ⟨known, once⟩ := admits
  have filled : (!rule.admitsEmpty && value.isEmpty) = false := by
    obtain ⟨other, again, filled⟩ := known (name, value) List.mem_concat_self
    obtain rfl := Option.some.inj (found.symm.trans again)
    rcases filled with may | filled
    · rw [may]
      rfl
    · rw [Bool.and_eq_false_iff]
      exact Or.inr (Bool.eq_false_iff.mpr fun empty => filled (String.isEmpty_iff.mp empty))
  have fresh : (!rule.repeatable && values.any (·.1 == rule.name)) = false := by
    cases single : rule.repeatable with
    | true => rfl
    | false =>
        rw [Bool.not_false, Bool.true_and, List.any_eq_false]
        intro option mem same
        have behind := (List.pairwise_append.mp once).2.2 option mem _ List.mem_cons_self
        obtain ⟨other, again, repeatable⟩ := behind ((eq_of_beq same).trans named)
        obtain rfl := Option.some.inj (found.symm.trans again)
        cases single.symm.trans repeatable
  rw [Given.judge]
  dsimp only
  rw [fresh, filled, named]
  rfl

/-- A word for an option of a level is added to what was given. -/
theorem read_long (regular : level.Regular) (found : level.option? name = some rule)
    {word : String} {attached? : Option String} (hyphen : word.toList.head? = some '-')
    (long : Word.ofText word = .long name attached?) {next : Given}
    (added : given.add rule attached? = .ok next) :
    level.read given (word :: words) = level.read next words := by
  have clear := (regular.options_clear rule (List.mem_of_find?_eq_some found)).1
  rw [name_of_option? found] at clear
  have noCommand : level.commands.contains word = false :=
    Bool.eq_false_iff.mpr fun inside =>
      regular.commands_clear word (List.contains_iff_mem.mp inside) hyphen
  rw [Level.read.eq_def]
  dsimp only
  rw [if_neg (by rw [noCommand, Bool.and_false]; exact Bool.false_ne_true), long]
  split
  case h_1 end_ => cases end_
  case h_2 help => cases help; exact absurd rfl clear
  case h_3 help => cases help; exact absurd rfl clear
  case h_4 same =>
    cases same
    rw [found]
    dsimp only
    rw [added]
  case h_5 letters => cases letters
  case h_6 letters => cases letters
  case h_7 plain => cases plain

/-- An option with its value attached is read behind others. -/
theorem read_attachedOption (regular : level.Regular) (holds : given.Holds values)
    (admits : level.Admits (values ++ [(name, value)])) :
    level.read given (attachedOption (name, value) :: words) =
      level.read ⟨values ++ [(name, value)], none⟩ words := by
  obtain ⟨rule, found, -⟩ := admits.known (name, value) List.mem_concat_self
  obtain ⟨-, -, plain⟩ := regular.options_clear rule (List.mem_of_find?_eq_some found)
  rw [name_of_option? found] at plain
  refine read_long regular found ?_ (Word.ofText_attachedOption plain value) ?_
  · rw [toList_attachedOption]
    rfl
  · rw [Given.add, holds.settle_eq]
    exact judge_of_admits found admits

/-- An option with its value in a word of its own is read behind others, and the value is judged
later. -/
theorem exists_read_apart (regular : level.Regular) (holds : given.Holds values)
    (admits : level.Admits (values ++ [(name, value)])) (alone : StandsAlone value)
    (words : List String) : ∃ next : Given, next.Holds (values ++ [(name, value)]) ∧
      level.read given (("--" ++ name) :: value :: words) = level.read next words := by
  obtain ⟨rule, found, -⟩ := admits.known (name, value) List.mem_concat_self
  obtain ⟨-, named, plain⟩ := regular.options_clear rule (List.mem_of_find?_eq_some found)
  rw [name_of_option? found] at named plain
  have opened : given.add rule none = .ok ⟨values, some (rule, none)⟩ := by
    rw [Given.add, holds.settle_eq]
  have judged := judge_of_admits found admits
  refine ⟨⟨values, some (rule, some value)⟩, ⟨judged, rfl⟩, ?_⟩
  rw [read_long regular found (by simp) (Word.ofText_option plain named) opened,
    Level.read.eq_def]
  dsimp only [Given.awaitsValue]
  rw [Word.ofText_of_standsAlone alone]
  rfl

/-- Options that are admitted behind others are read behind them. -/
theorem exists_read_behind (regular : level.Regular) (holds : given.Holds values)
    (spells : Spells options words) (admits : level.Admits (values ++ options))
    (rest : List String) : ∃ last : Given, last.Holds (values ++ options) ∧
      level.read given (words ++ rest) = level.read last rest := by
  induction spells generalizing given values with
  | nil => exact ⟨given, (List.append_nil values).symm ▸ holds, rfl⟩
  | attached name value _ ih =>
      rw [List.append_cons] at admits ⊢
      rw [List.cons_append, read_attachedOption regular holds admits.of_append]
      exact ih (Given.holds_mk _) admits
  | @apart _ words name value alone _ ih =>
      rw [List.append_cons] at admits ⊢
      obtain ⟨next, holds, same⟩ :=
        exists_read_apart regular holds admits.of_append alone (words ++ rest)
      obtain ⟨last, holds, ends⟩ := ih holds admits
      exact ⟨last, holds, same.trans ends⟩

/-- **A level reads the options that it admits**, in any combination. -/
theorem read_spelled (regular : level.Regular) (spells : Spells options words)
    (admits : level.Admits options) (rest : List String) :
    ∃ last : Given, last.Holds options ∧
      level.read .none (words ++ rest) = level.read last rest :=
  exists_read_behind regular (Given.holds_mk []) spells admits rest

end Level

/-! ## Command lines -/

namespace CommandLine

theorem regular_mainLevel : mainLevel.Regular := ⟨by decide, by decide⟩

theorem regular_generateLevel : generateLevel.Regular := ⟨by decide, by decide⟩

theorem regular_generateSingleLevel : generateSingleLevel.Regular := ⟨by decide, by decide⟩

variable {level : Level} {flags options : List (String × String)} {words flagWords : List String}
  {command : String} {job : Job}

/-- The values that an option is given, in their order. -/
def valuesGiven (options : List (String × String)) (name : String) : List String :=
  (options.filter (·.1 == name)).map (·.2)

/-- A command with options orders a job. -/
inductive Orders : String → List (String × String) → Job → Prop where
  | patterns : Orders "patterns" [] .patterns
  | generate {options : List (String × String)} (admits : generateLevel.Admits options)
      (step : valuesGiven options "step" ≠ []) :
      Orders "generate" options (.generate (valuesGiven options "step") (options.lookup "steps")
        (options.lookup "project-name"))
  | generateSingle {options : List (String × String)} (admits : generateSingleLevel.Admits options)
      (pattern : valuesGiven options "pattern" ≠ []) :
      Orders "generate-single" options (.generateSingle (valuesGiven options "pattern")
        (options.lookup "project-name"))
  | counter : Orders "counter" [] .counter
  | resetCounter : Orders "reset-counter" [] .resetCounter

theorem Orders.mem_commands (orders : Orders command options job) :
    command ∈ mainLevel.commands := by
  cases orders <;> decide

/-- The project of a job is the one that its command is given. -/
theorem Orders.projectName?_eq (orders : Orders command options job) :
    job.projectName? = options.lookup "project-name" := by
  cases orders <;> rfl

/-- The options of the last level end with the words. -/
theorem lastLevel_spelled (regular : level.Regular) (spells : Spells options words)
    (admits : level.Admits options) : lastLevel level words = .ok ⟨options, none⟩ := by
  obtain ⟨last, holds, read⟩ := Level.read_spelled regular spells admits []
  rw [List.append_nil] at read
  rw [lastLevel, read]
  exact holds.settle_eq

/-- **A command is read with its options**, in any combination. -/
theorem readJob_of_orders (orders : Orders command options job) (spells : Spells options words) :
    readJob command words = .ok job := by
  cases orders with
  | patterns =>
      cases spells
      rfl
  | counter =>
      cases spells
      rfl
  | resetCounter =>
      cases spells
      rfl
  | generate admits step =>
      have given : ((Given.mk options none).valuesOf "step").isEmpty = false :=
        List.isEmpty_eq_false_iff.mpr step
      rw [readJob, lastLevel_spelled regular_generateLevel spells admits]
      dsimp only
      rw [given]
      simp only [Given.value?_eq]
      rfl
  | generateSingle admits pattern =>
      have given : ((Given.mk options none).valuesOf "pattern").isEmpty = false :=
        List.isEmpty_eq_false_iff.mpr pattern
      rw [readJob, lastLevel_spelled regular_generateSingleLevel spells admits]
      dsimp only
      rw [given]
      simp only [Given.value?_eq]
      rfl

/-- Options for all jobs are read in any combination in front of a command. -/
theorem read_spelled (spells : Spells flags flagWords) (admits : mainLevel.Admits flags)
    (named : command ∈ mainLevel.commands) (behind : readJob command words = .ok job) :
    read (flagWords ++ command :: words) = .ok {
      config? := flags.lookup "config"
      serverUrl? := flags.lookup "server-url"
      downloadDirectory? := flags.lookup "download-dir"
      statePath? := flags.lookup "state-file"
      job } := by
  obtain ⟨last, holds, same⟩ :=
    Level.read_spelled regular_mainLevel spells admits (command :: words)
  have ends : mainLevel.read last (command :: words) = .ok (last, some (command, words)) := by
    rw [Level.read.eq_def]
    dsimp only
    rw [holds.awaitsValue_eq]
    exact if_pos (List.contains_iff_mem.mpr named)
  rw [read, same, ends]
  dsimp only
  rw [behind]
  dsimp only
  rw [holds.settle_eq]
  simp only [Given.value?_eq]

/-- **Every combination of options is read**, and each of them goes to the setting that it is for,
whatever the command. -/
theorem exists_read_of_orders (spells : Spells flags flagWords) (admits : mainLevel.Admits flags)
    (orders : Orders command options job) (behind : Spells options words) :
    ∃ line, read (flagWords ++ command :: words) = .ok line ∧ line.job = job ∧
      line.config? = flags.lookup "config" ∧
      line.overrides = ⟨flags.lookup "server-url", flags.lookup "download-dir",
        flags.lookup "state-file", options.lookup "project-name"⟩ := by
  have job_read := readJob_of_orders orders behind
  refine ⟨_, read_spelled spells admits orders.mem_commands job_read, rfl, rfl, ?_⟩
  rw [overrides, orders.projectName?_eq]

end CommandLine

end PatternRefinement
