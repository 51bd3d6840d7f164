import Mathlib.Data.List.Induction
import PatternRefinement.Proofs.FileTree.Directory
import PatternRefinement.Proofs.FileTree.MadePath

/-!
# The way along a path

## Main Definitions

* `FileTree.destination` — where a path leads if it can be followed
* `FileTree.Passes` — a location on the way along some names
* `FileTree.Passable` — no regular file and no long name is in the way

## Main Statements

* `FileTree.eq_destination_of_directoryAt?` — a path that names a directory leads to its destination
* `FileTree.directory_of_walk` — where names were followed, a directory stands everywhere on the way
* `FileTree.Passable.walk` — where nothing is in the way, names can be followed or one is missing
-/

namespace PatternRefinement.FileTree

variable {tree other : FileTree}

/-! ## Where a path leads -/

/-- Where one name leads if it can be entered. -/
def step (location : Location) (name : String) : Location :=
  if name = "." then location
  else if name = ".." then location.dropLast
  else location ++ [name]

/-- Where a path leads if it can be followed. -/
def destination (tree : FileTree) (path : String) : Location :=
  (Path.names path).foldl step (tree.start path)

theorem step_of_plain {location : Location} {name : String} (noDot : name ≠ ".")
    (noDots : name ≠ "..") : step location name = location ++ [name] := by
  rw [step, if_neg noDot, if_neg noDots]

theorem enter_of_plain {location : Location} {name : String} (noDot : name ≠ ".")
    (noDots : name ≠ "..") (short : name.utf8ByteSize ≤ maxNameBytes) :
    tree.enter location name =
      match tree.node? (location ++ [name]) with
      | none => .error .notFound
      | some (.file _) => .error .notDirectory
      | some .directory => .ok (location ++ [name]) := by
  unfold enter
  exact (if_neg noDot).trans ((if_neg noDots).trans (if_neg (Nat.not_lt.mpr short)))

/-- What entering a name that is none of the two special ones says about it. -/
theorem of_enter_plain {location next : Location} {name : String} (noDot : name ≠ ".")
    (noDots : name ≠ "..") (entered : tree.enter location name = .ok next) :
    name.utf8ByteSize ≤ maxNameBytes ∧ tree.node? (location ++ [name]) = some .directory := by
  rw [enter, if_neg noDot, if_neg noDots] at entered
  split at entered
  · cases entered
  rename_i short
  refine ⟨Nat.not_lt.mp short, ?_⟩
  split at entered
  · cases entered
  · cases entered
  · assumption

theorem eq_step_of_enter {location next : Location} {name : String}
    (entered : tree.enter location name = .ok next) : next = step location name := by
  by_cases dot : name = "."
  · subst dot
    exact (Except.ok.inj entered).symm
  by_cases dots : name = ".."
  · subst dots
    exact (Except.ok.inj entered).symm
  obtain ⟨short, there⟩ := of_enter_plain dot dots entered
  rw [enter_of_plain dot dots short, there] at entered
  rw [step_of_plain dot dots]
  exact (Except.ok.inj entered).symm

theorem eq_foldl_step_of_walk {location next : Location} {names : List String}
    (walked : tree.walk location names = .ok next) : next = names.foldl step location := by
  induction names generalizing location with
  | nil =>
      cases walked
      rfl
  | cons name rest ih =>
      rw [walk] at walked
      split at walked
      · rename_i entered
        rw [List.foldl_cons, ← eq_step_of_enter entered]
        exact ih walked
      · cases walked

/-- A path that names a directory leads to its destination. -/
theorem eq_destination_of_directoryAt? {path : String} {location : Location}
    (named : tree.directoryAt? path = some location) : location = tree.destination path :=
  eq_foldl_step_of_walk (directoryAt?_eq_some_iff.mp named).2

theorem start_congr (same : other.workingDirectory = tree.workingDirectory) (path : String) :
    other.start path = tree.start path := by
  rw [start, start, same]

/-- The destination of a path depends on the working directory only. -/
theorem destination_congr (same : other.workingDirectory = tree.workingDirectory) (path : String) :
    other.destination path = tree.destination path := by
  rw [destination, destination, start_congr same]

/-- Dots along a path lead nowhere. -/
theorem walk_filter (tree : FileTree) (location : Location) (names : List String) :
    tree.walk location (names.filter (· != ".")) = tree.walk location names := by
  induction names generalizing location with
  | nil => rfl
  | cons name rest ih =>
      by_cases dot : name = "."
      · subst dot
        exact ih location
      · rw [List.filter_cons_of_pos (by simpa using dot), walk, walk]
        cases tree.enter location name with
        | error e => rfl
        | ok next => exact ih next

theorem walk_significant (tree : FileTree) (location : Location) (absolute : Bool)
    (names : List String) :
    tree.walk location (Path.significant absolute names) = tree.walk location names := by
  cases absolute with
  | true => rw [Path.significant_absolute, walk_filter]
  | false =>
      cases names with
      | nil => rfl
      | cons first rest =>
          rw [Path.significant_relative, walk, walk]
          cases tree.enter location first with
          | error e => rfl
          | ok next => exact tree.walk_filter next rest

/-! ## On the way -/

/-- A location on the way along some names: where one of them leads that is none of the two special
ones. -/
def Passes (start : Location) (names : List String) (location : Location) : Prop :=
  ∃ front name, front ++ [name] <+: names ∧ name ≠ "." ∧ name ≠ ".." ∧
    location = front.foldl step start ++ [name]

theorem passes_concat {start location : Location} {names : List String} {name : String} :
    Passes start (names ++ [name]) location ↔
      Passes start names location ∨
        name ≠ "." ∧ name ≠ ".." ∧ location = names.foldl step start ++ [name] := by
  constructor
  · rintro ⟨front, last, before, noDot, noDots, rfl⟩
    rcases List.prefix_concat_iff.mp before with whole | before
    · obtain ⟨rfl, same⟩ := List.append_inj' whole rfl
      obtain rfl := List.singleton_inj.mp same
      exact Or.inr ⟨noDot, noDots, rfl⟩
    · exact Or.inl ⟨front, last, before, noDot, noDots, rfl⟩
  · rintro (⟨front, last, before, found⟩ | ⟨noDot, noDots, rfl⟩)
    · exact ⟨front, last, before.trans (List.prefix_append names [name]), found⟩
    · exact ⟨names, name, List.prefix_rfl, noDot, noDots, rfl⟩

theorem not_passes_nil {start location : Location} : ¬Passes start [] location := by
  rintro ⟨front, name, before, -⟩
  simpa using List.prefix_nil.mp before

theorem passes_cons {start location : Location} {first : String} {rest : List String} :
    Passes start (first :: rest) location ↔
      first ≠ "." ∧ first ≠ ".." ∧ location = start ++ [first] ∨
        Passes (step start first) rest location := by
  constructor
  · rintro ⟨front, name, before, noDot, noDots, rfl⟩
    cases front with
    | nil =>
        obtain ⟨rfl, -⟩ := List.cons_prefix_cons.mp before
        exact Or.inl ⟨noDot, noDots, rfl⟩
    | cons head front =>
        obtain ⟨rfl, inside⟩ := List.cons_prefix_cons.mp before
        exact Or.inr ⟨front, name, inside, noDot, noDots, rfl⟩
  · rintro (⟨noDot, noDots, rfl⟩ | ⟨front, name, before, found⟩)
    · exact ⟨[], first, List.cons_prefix_cons.mpr ⟨rfl, List.nil_prefix⟩, noDot, noDots, rfl⟩
    · exact ⟨first :: front, name, List.cons_prefix_cons.mpr ⟨rfl, before⟩, found⟩

theorem passes_filter {start location : Location} {names : List String}
    (passes : Passes start (names.filter (· != ".")) location) : Passes start names location := by
  induction names generalizing start with
  | nil => exact passes
  | cons first rest ih =>
      rw [passes_cons]
      by_cases dot : first = "."
      · subst dot
        exact Or.inr (ih passes)
      · rw [List.filter_cons_of_pos (by simpa using dot), passes_cons] at passes
        exact passes.imp_right ih

theorem passes_significant {start location : Location} {absolute : Bool} {names : List String}
    (passes : Passes start (Path.significant absolute names) location) :
    Passes start names location := by
  cases absolute with
  | true =>
      rw [Path.significant_absolute] at passes
      exact passes_filter passes
  | false =>
      cases names with
      | nil => exact passes
      | cons first rest =>
          rw [Path.significant_relative, passes_cons] at passes
          rw [passes_cons]
          exact passes.imp_right passes_filter

/-- Where names were followed, a directory stands everywhere on the way. -/
theorem directory_of_walk {start next location : Location} {names : List String}
    (walked : tree.walk start names = .ok next) (passes : Passes start names location) :
    tree.node? location = some .directory := by
  induction names generalizing start with
  | nil => exact absurd passes not_passes_nil
  | cons first rest ih =>
      rw [walk] at walked
      split at walked
      swap
      · cases walked
      rename_i entered
      rcases passes_cons.mp passes with ⟨noDot, noDots, rfl⟩ | behind
      · exact (of_enter_plain noDot noDots entered).2
      · rw [← eq_step_of_enter entered] at behind
        exact ih walked behind

/-! ## Nothing in the way -/

/-- Nothing is in the way along some names: no name is too long, and no regular file stands where
one of them leads. -/
structure Passable (tree : FileTree) (start : Location) (names : List String) : Prop where
  short : ∀ name ∈ names, name.utf8ByteSize ≤ maxNameBytes
  noFile : ∀ location, Passes start names location →
    ∀ content, tree.node? location ≠ some (.file content)

theorem short_of_walk {start next : Location} {names : List String}
    (walked : tree.walk start names = .ok next) :
    ∀ name ∈ names, name.utf8ByteSize ≤ maxNameBytes := by
  induction names generalizing start with
  | nil => exact List.forall_mem_nil _
  | cons first rest ih =>
      rw [walk] at walked
      split at walked
      swap
      · cases walked
      rename_i entered
      refine List.forall_mem_cons.mpr ⟨?_, ih walked⟩
      by_cases dot : first = "."
      · rw [dot]
        decide
      by_cases dots : first = ".."
      · rw [dots]
        decide
      exact (of_enter_plain dot dots entered).1

theorem Passable.of_concat {start : Location} {names : List String} {name : String}
    (passable : tree.Passable start (names ++ [name])) : tree.Passable start names :=
  ⟨fun other mem => passable.short other (List.mem_append_left [name] mem),
    fun location passes => passable.noFile location (passes_concat.mpr (Or.inl passes))⟩

theorem Passable.grown {start : Location} {names : List String}
    (passable : tree.Passable start names) (grown : tree.Grown other) :
    other.Passable start names :=
  ⟨passable.short, fun location passes content there =>
    passable.noFile location passes content (grown.file_iff.mp there)⟩

/-- A name that nothing stands in the way of can be entered, or is missing. -/
theorem Passable.enter {start : Location} {names : List String} {name : String}
    (passable : tree.Passable start (names ++ [name])) :
    let location := names.foldl step start
    tree.enter location name = .ok (step location name) ∨
      name ≠ "." ∧ name ≠ ".." ∧ tree.node? (location ++ [name]) = none ∧
        tree.enter location name = .error .notFound := by
  intro location
  by_cases dot : name = "."
  · subst dot
    exact Or.inl rfl
  by_cases dots : name = ".."
  · subst dots
    exact Or.inl rfl
  have short := passable.short name (by simp)
  have noFile := passable.noFile _ (passes_concat.mpr (Or.inr ⟨dot, dots, rfl⟩))
  rw [enter_of_plain dot dots short, step_of_plain dot dots]
  cases stands : tree.node? (location ++ [name]) with
  | none => exact Or.inr ⟨dot, dots, rfl, rfl⟩
  | some node =>
      cases node with
      | directory => exact Or.inl rfl
      | file content => exact absurd stands (noFile content)

/-- Names that nothing stands in the way of can be followed, or one of them is missing. -/
theorem Passable.walk {start : Location} {names : List String}
    (passable : tree.Passable start names) :
    tree.walk start names = .ok (names.foldl step start) ∨
      tree.walk start names = .error .notFound := by
  induction names using List.reverseRecOn with
  | nil => exact Or.inl rfl
  | append_singleton names name ih =>
      rw [walk_concat, List.foldl_concat]
      rcases ih passable.of_concat with walked | missing
      · rw [walked]
        exact passable.enter.imp_right fun missing => missing.2.2.2
      · rw [missing]
        exact Or.inr rfl

end PatternRefinement.FileTree
