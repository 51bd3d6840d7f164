import PatternRefinement.Json.Printer
import PatternRefinement.Json.Reader

/-!
# One writer for both layouts

## Main Definitions

* `Layout` — the blanks that a writer puts between the tokens
* `Value.written` — a value in a layout
* `Layout.compact`, `Layout.pretty` — the layouts of the two writers

## Main Statements

* `Value.compact_eq`, `Value.pretty_eq` — both writers are `Value.written` with their layout

## Design Notes

The two writers differ in blanks only, and a reader skips these. So whatever is said about
reading is proved once, for `Value.written`.
-/

namespace PatternRefinement.Json

/-- A text of blanks. -/
def Blanks (text : List Char) : Prop := ∀ c ∈ text, isSpace c = true

/-- The blanks between tokens: before an item or a closing bracket at some depth, and behind a
colon. -/
structure Layout where
  gap : Nat → List Char
  afterColon : List Char
  blanks_gap : ∀ depth, Blanks (gap depth)
  blanks_afterColon : Blanks afterColon

namespace Layout

/-- No blanks at all. -/
def compact : Layout where
  gap _ := []
  afterColon := []
  blanks_gap _ := List.forall_mem_nil _
  blanks_afterColon := List.forall_mem_nil _

theorem blanks_newline (depth : Nat) : Blanks (newline depth) := by
  intro c mem
  rcases List.mem_cons.mp mem with rfl | behind
  · rfl
  · rw [List.eq_of_mem_replicate behind]
    rfl

/-- Each item on a line of its own. -/
def pretty : Layout where
  gap := newline
  afterColon := [' ']
  blanks_gap := blanks_newline
  blanks_afterColon := by
    intro c mem
    rw [List.mem_singleton.mp mem]
    rfl

end Layout

mutual

/-- A value in a layout, inside `depth` containers. -/
def Value.written (layout : Layout) (depth : Nat) : Value → List Char
  | .null => "null".toList
  | .bool true => "true".toList
  | .bool false => "false".toList
  | .number n => n.text.toList
  | .string text => quoted text
  | .array [] => ['[', ']']
  | .array (first :: rest) =>
    '[' :: (layout.gap (depth + 1) ++ (first.written layout (depth + 1) ++
      (writtenItems layout depth rest ++ (layout.gap depth ++ [']']))))
  | .object [] => ['{', '}']
  | .object ((name, value) :: rest) =>
    '{' :: (layout.gap (depth + 1) ++ (quoted name ++ ':' :: (layout.afterColon ++
      (value.written layout (depth + 1) ++
        (writtenMembers layout depth rest ++ (layout.gap depth ++ ['}']))))))

/-- The items behind the first one of a container inside `depth` others. -/
def writtenItems (layout : Layout) (depth : Nat) : List Value → List Char
  | [] => []
  | item :: rest =>
    ',' :: (layout.gap (depth + 1) ++
      (item.written layout (depth + 1) ++ writtenItems layout depth rest))

/-- The members behind the first one of a container inside `depth` others. -/
def writtenMembers (layout : Layout) (depth : Nat) : List (String × Value) → List Char
  | [] => []
  | (name, value) :: rest =>
    ',' :: (layout.gap (depth + 1) ++ (quoted name ++ ':' :: (layout.afterColon ++
      (value.written layout (depth + 1) ++ writtenMembers layout depth rest))))

end

mutual

theorem Value.compact_eq (depth : Nat) :
    (value : Value) → value.compact = value.written Layout.compact depth
  | .null => rfl
  | .bool true => rfl
  | .bool false => rfl
  | .number n => rfl
  | .string text => rfl
  | .array [] => rfl
  | .array (first :: rest) => by
      rw [Value.compact, Value.written, first.compact_eq (depth + 1), compactItems_eq depth rest]
      rfl
  | .object [] => rfl
  | .object ((name, value) :: rest) => by
      rw [Value.compact, Value.written, value.compact_eq (depth + 1), compactMembers_eq depth rest]
      rfl

theorem compactItems_eq (depth : Nat) :
    (items : List Value) → compactItems items = writtenItems Layout.compact depth items
  | [] => rfl
  | item :: rest => by
      rw [compactItems, writtenItems, item.compact_eq (depth + 1), compactItems_eq depth rest]
      rfl

theorem compactMembers_eq (depth : Nat) : (members : List (String × Value)) →
    compactMembers members = writtenMembers Layout.compact depth members
  | [] => rfl
  | (name, value) :: rest => by
      rw [compactMembers, writtenMembers, value.compact_eq (depth + 1),
        compactMembers_eq depth rest]
      rfl

end

mutual

theorem Value.pretty_eq (depth : Nat) :
    (value : Value) → value.pretty depth = value.written Layout.pretty depth
  | .null => rfl
  | .bool true => rfl
  | .bool false => rfl
  | .number n => rfl
  | .string text => rfl
  | .array [] => rfl
  | .array (first :: rest) => by
      rw [Value.pretty, Value.written, first.pretty_eq (depth + 1), prettyItems_eq depth rest]
      rfl
  | .object [] => rfl
  | .object ((name, value) :: rest) => by
      rw [Value.pretty, Value.written, value.pretty_eq (depth + 1), prettyMembers_eq depth rest]
      rfl

theorem prettyItems_eq (depth : Nat) :
    (items : List Value) → prettyItems depth items = writtenItems Layout.pretty depth items
  | [] => rfl
  | item :: rest => by
      rw [prettyItems, writtenItems, item.pretty_eq (depth + 1), prettyItems_eq depth rest]
      rfl

theorem prettyMembers_eq (depth : Nat) : (members : List (String × Value)) →
    prettyMembers depth members = writtenMembers Layout.pretty depth members
  | [] => rfl
  | (name, value) :: rest => by
      rw [prettyMembers, writtenMembers, value.pretty_eq (depth + 1), prettyMembers_eq depth rest]
      rfl

end

/-! ## The items of a container -/

/-- A member in a layout, at some depth. -/
def writtenMember (layout : Layout) (depth : Nat) (member : String × Value) : List Char :=
  quoted member.1 ++ ':' :: (layout.afterColon ++ member.2.written layout depth)

theorem writtenItems_eq (layout : Layout) (depth : Nat) (items : List Value) :
    writtenItems layout depth items = items.flatMap fun item =>
      ',' :: (layout.gap (depth + 1) ++ item.written layout (depth + 1)) := by
  induction items with
  | nil => rfl
  | cons item rest ih => simp [writtenItems, ih]

theorem writtenMembers_eq (layout : Layout) (depth : Nat) (members : List (String × Value)) :
    writtenMembers layout depth members = members.flatMap fun member =>
      ',' :: (layout.gap (depth + 1) ++ writtenMember layout (depth + 1) member) := by
  induction members with
  | nil => rfl
  | cons member rest ih => simp [writtenMembers, writtenMember, ih]

end PatternRefinement.Json
