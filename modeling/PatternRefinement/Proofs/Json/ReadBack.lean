import PatternRefinement.Proofs.Json.Layout
import PatternRefinement.Proofs.Json.Numeral

/-!
# Written JSON is read again

## Main Definitions

* `Value.Fits` — containers nested at most so deep, and numbers that fit
* `Value.reread` — the value that is read where a value was written

## Main Statements

* `value_written` — a value that fits is read from its text in any layout
* `read?_compactText`, `read?_prettyText` — and from the texts of the two writers
* `fits_of_value` — whatever is read fits

## Design Notes

Everything is said about a text with more text behind it, for that is what the readers of
containers see. What stands behind a value must not go on with it (`Numeral.Stops`), which
matters for numbers only.
-/

namespace PatternRefinement.Json

open Numeral (Stops stops_nil stops_cons)
open Text (Reader)

/-! ## Blanks -/

theorem skipBlanks_append {blanks : List Char} (h : Blanks blanks) (text : List Char) :
    skipBlanks (blanks ++ text) = skipBlanks text :=
  List.dropWhile_append_of_pos h

theorem skipBlanks_cons {c : Char} {rest : List Char} (h : isSpace c = false) :
    skipBlanks (c :: rest) = c :: rest := by
  rw [skipBlanks, List.dropWhile_cons, h, if_neg Bool.false_ne_true]

theorem stops_of_isSpace {c : Char} {rest : List Char} (h : isSpace c = true) :
    Stops (c :: rest) := by
  simp only [isSpace, Bool.or_eq_true, beq_iff_eq] at h
  rcases h with ((rfl | rfl) | rfl) | rfl
  all_goals exact stops_cons (by decide) (by decide) (by decide) (by decide)

/-- Blanks in front do not make a number go on. -/
theorem Blanks.stops {blanks rest : List Char} (h : Blanks blanks) (stops : Stops rest) :
    Stops (blanks ++ rest) := by
  cases blanks with
  | nil => exact stops
  | cons c others => exact stops_of_isSpace (h c List.mem_cons_self)

/-! ## Strings -/

theorem hexDigit?_hexDigit {n : Nat} (h : n < 16) : Text.hexDigit? (hexDigit n) = some n := by
  revert n
  decide

theorem hexNumber_four {a b c d : Char} {x y z w : Nat} (rest : List Char)
    (ha : Text.hexDigit? a = some x) (hb : Text.hexDigit? b = some y)
    (hc : Text.hexDigit? c = some z) (hd : Text.hexDigit? d = some w) :
    Text.hexNumber 4 (a :: b :: c :: d :: rest) =
      some (16 * (16 * (16 * x + y) + z) + w, rest) := by
  simp [Text.hexNumber, ha, hb, hc, hd]

/-- The escape of a control character denotes it. -/
theorem escape_control {c : Char} (control : c.toNat < 0x20) (rest : List Char) :
    escape ('u' :: '0' :: '0' :: hexDigit (c.toNat / 16) :: hexDigit (c.toNat % 16) :: rest) =
      some (c, rest) := by
  have zero : Text.hexDigit? '0' = some 0 := rfl
  have digits := hexNumber_four rest zero zero (hexDigit?_hexDigit (n := c.toNat / 16) (by omega))
    (hexDigit?_hexDigit (n := c.toNat % 16) (by omega))
  have value : 16 * (16 * (16 * 0 + 0) + c.toNat / 16) + c.toNat % 16 = c.toNat := by omega
  rw [value] at digits
  have low : isLowSurrogate c.toNat = false := by
    simp only [isLowSurrogate, Bool.and_eq_false_iff, decide_eq_false_iff_not]
    omega
  have high : isHighSurrogate c.toNat = false := by
    simp only [isHighSurrogate, Bool.and_eq_false_iff, decide_eq_false_iff_not]
    omega
  rw [escape, unicodeEscape, digits]
  simp only [low, high, Bool.false_eq_true, ↓reduceIte, Char.ofNat_toNat]

/-- An escape is followed by the rest of the string. -/
theorem stringBody_escape {c : Char} {rest behind : List Char}
    (h : escape rest = some (c, behind)) : stringBody ('\\' :: rest) =
      (stringBody behind).map fun (body, behind) => (c :: body, behind) := by
  rw [stringBody, if_neg (by decide), if_pos rfl]
  split
  · rename_i refused
    rw [h] at refused
    cases refused
  · rename_i other others read
    rw [h] at read
    obtain ⟨rfl, rfl⟩ := Prod.mk.inj (Option.some.inj read)
    rfl

/-- A character is read as it was escaped. -/
theorem stringBody_escaped (c : Char) (rest : List Char) : stringBody (escaped c ++ rest) =
    (stringBody rest).map fun (body, behind) => (c :: body, behind) := by
  unfold escaped
  split_ifs with quote backslash backspace feed line carriage tab control
  -- Seven characters have an escape of one letter.
  iterate 7
    · subst c
      exact stringBody_escape rfl
  · exact stringBody_escape (escape_control control rest)
  · rw [List.singleton_append, stringBody, if_neg quote, if_neg backslash, if_neg control]

theorem stringBody_flatMap (text rest : List Char) :
    stringBody (text.flatMap escaped ++ '"' :: rest) = some (text, rest) := by
  induction text with
  | nil => rw [List.flatMap_nil, List.nil_append, stringBody, if_pos rfl]
  | cons c others ih =>
      rw [List.flatMap_cons, List.append_assoc, stringBody_escaped, ih]
      rfl

/-- The text behind the opening quote of a string is read as that string. -/
theorem stringBody_quoted (text : String) (rest : List Char) :
    stringBody (text.toList.flatMap escaped ++ ['"'] ++ rest) = some (text.toList, rest) := by
  rw [List.append_assoc, List.singleton_append, stringBody_flatMap]

theorem string_quoted (text : String) (rest : List Char) :
    string (quoted text ++ rest) = some (text, rest) := by
  rw [quoted, List.cons_append, string, skipBlanks_cons rfl]
  show (stringBody (text.toList.flatMap escaped ++ ['"'] ++ rest)).map _ = _
  rw [stringBody_quoted, Option.map_some]
  exact congrArg (fun text => some (text, rest)) String.ofList_toList

/-! ## Containers -/

/-- Blanks in front do not matter to a reader. -/
def Skips {α : Type} (reader : Reader α) : Prop :=
  ∀ blanks text, Blanks blanks → reader (blanks ++ text) = reader text

theorem skips_string : Skips string := by
  intro blanks text h
  rw [string, string, skipBlanks_append h]

theorem skips_member {α : Type} (value : Reader α) : Skips (member value) := by
  intro blanks text h
  rw [member, member, skips_string blanks text h]

theorem skips_value (depth : Nat) : Skips (value depth) := by
  intro blanks text h
  rw [value.eq_def, value.eq_def]
  dsimp only
  rw [skipBlanks_append h]

/-- A text that begins with a token, which is not a closing bracket. -/
def Opens (text : List Char) : Prop :=
  ∃ c rest, text = c :: rest ∧ isSpace c = false ∧ c ≠ ']' ∧ c ≠ '}'

section Items

variable {α β : Type} {item : Reader α} {close : Char} {text : β → List Char} {out : β → α}
  {gap back : List Char}

theorem stops_items (closing : close = ']' ∨ close = '}') (blanksBack : Blanks back)
    (rest : List β) (behind : List Char) :
    Stops (rest.flatMap (fun x => ',' :: (gap ++ text x)) ++ (back ++ close :: behind)) := by
  cases rest with
  | nil =>
      refine blanksBack.stops ?_
      rcases closing with rfl | rfl
      · exact stops_cons (by decide) (by decide) (by decide) (by decide)
      · exact stops_cons (by decide) (by decide) (by decide) (by decide)
  | cons x others => exact stops_cons (by decide) (by decide) (by decide) (by decide)

/-- Items that are read one by one are read with commas between them, up to the bracket. -/
theorem items_written (closing : close = ']' ∨ close = '}') (skips : Skips item)
    (blanksGap : Blanks gap) (blanksBack : Blanks back) (front : List Char)
    (blanksFront : Blanks front) {first : β} {rest : List β}
    (each : ∀ x ∈ first :: rest, ∀ behind, Stops behind →
      item (text x ++ behind) = some (out x, behind)) (behind : List Char) :
    items item close (front ++ (text first ++
      (rest.flatMap (fun x => ',' :: (gap ++ text x)) ++ (back ++ close :: behind)))) =
        some ((first :: rest).map out, behind) := by
  have apart : isSpace close = false := by rcases closing with rfl | rfl <;> rfl
  induction rest generalizing first front with
  | nil =>
      rw [items, skips front _ blanksFront,
        each first List.mem_cons_self _ (stops_items closing blanksBack [] behind)]
      simp only [List.flatMap_nil, List.nil_append, skipBlanks_append blanksBack,
        skipBlanks_cons apart, ↓reduceIte, List.map_cons, List.map_nil]
  | cons second others ih =>
      have read := ih gap blanksGap fun x mem => each x (List.mem_cons_of_mem first mem)
      have comma : ',' ≠ close := by rcases closing with rfl | rfl <;> decide
      rw [items, skips front _ blanksFront, each first List.mem_cons_self _
        (stops_items closing blanksBack (second :: others) behind), List.flatMap_cons,
        List.cons_append, List.append_assoc]
      simp only [List.cons_append, List.append_assoc, skipBlanks_cons (c := ',') rfl, if_neg comma,
        ↓reduceIte, read]
      -- The reader makes sure that something has been read.
      rw [if_pos (by simp only [List.length_append, List.length_cons]; omega)]
      rfl

theorem itemsOrNone_written (closing : close = ']' ∨ close = '}') (skips : Skips item)
    (blanksGap : Blanks gap) (blanksBack : Blanks back) {first : β} {rest : List β}
    (opens : Opens (text first))
    (each : ∀ x ∈ first :: rest, ∀ behind, Stops behind →
      item (text x ++ behind) = some (out x, behind)) (behind : List Char) :
    itemsOrNone item close (gap ++ (text first ++
      (rest.flatMap (fun x => ',' :: (gap ++ text x)) ++ (back ++ close :: behind)))) =
        some ((first :: rest).map out, behind) := by
  have read := items_written closing skips blanksGap blanksBack [] (List.forall_mem_nil _) each
    behind
  obtain ⟨c, others, same, apart, bracket, brace⟩ := opens
  have other : c ≠ close := by
    rcases closing with rfl | rfl
    · exact bracket
    · exact brace
  rw [itemsOrNone, skipBlanks_append blanksGap]
  rw [same, List.cons_append] at read ⊢
  rw [skipBlanks_cons apart]
  exact (if_neg other).trans read

theorem itemsOrNone_empty (closing : close = ']' ∨ close = '}') (behind : List Char) :
    itemsOrNone item close (close :: behind) = some ([], behind) := by
  have apart : isSpace close = false := by rcases closing with rfl | rfl <;> rfl
  rw [itemsOrNone, skipBlanks_cons apart]
  exact if_pos rfl

end Items

/-- A member is read if its value is. -/
theorem member_written {α : Type} {value : Reader α} {afterColon text rest : List Char} {v : α}
    (skips : Skips value) (blanks : Blanks afterColon)
    (read : value (text ++ rest) = some (v, rest)) (name : String) :
    member value (quoted name ++ ':' :: (afterColon ++ text) ++ rest) = some ((name, v), rest) := by
  rw [List.append_assoc, member, string_quoted]
  simp only [List.cons_append, List.append_assoc, skipBlanks_cons (c := ':') rfl,
    skips afterColon _ blanks, read, Option.map_some]

/-! ## Values -/

/-- A value whose containers are nested at most so deep, and whose numbers fit. -/
inductive Value.Fits : Nat → Value → Prop
  | null {depth : Nat} : Fits depth .null
  | bool {depth : Nat} (b : Bool) : Fits depth (.bool b)
  | number {depth : Nat} {n : Number} (fits : n.Fits) : Fits depth (.number n)
  | string {depth : Nat} (text : String) : Fits depth (.string text)
  | array {depth : Nat} {items : List Value} (each : ∀ item ∈ items, Fits depth item) :
      Fits (depth + 1) (.array items)
  | object {depth : Nat} {members : List (String × Value)}
      (each : ∀ member ∈ members, Fits depth member.2) : Fits (depth + 1) (.object members)

mutual

/-- The value that is read where a value was written. -/
def Value.reread : Value → Value
  | .number n => .number n.reread
  | .array items => .array (rereadItems items)
  | .object members => .object (rereadMembers members)
  | value => value

/-- The items that are read where items were written. -/
def rereadItems : List Value → List Value
  | [] => []
  | item :: rest => item.reread :: rereadItems rest

/-- The members that are read where members were written. -/
def rereadMembers : List (String × Value) → List (String × Value)
  | [] => []
  | (name, value) :: rest => (name, value.reread) :: rereadMembers rest

end

theorem rereadItems_eq (items : List Value) : rereadItems items = items.map Value.reread := by
  induction items with
  | nil => rfl
  | cons item rest ih => rw [rereadItems, ih, List.map_cons]

theorem rereadMembers_eq (members : List (String × Value)) :
    rereadMembers members = members.map fun member => (member.1, member.2.reread) := by
  induction members with
  | nil => rfl
  | cons member rest ih => rw [rereadMembers, ih, List.map_cons]

/-! ### Numbers -/

/-- The characters that a numeral begins with. -/
def beginsNumeral (c : Char) : Bool := c == '-' || c.isDigit

theorem ne_of_beginsNumeral {c d : Char} (begins : beginsNumeral c = true)
    (other : beginsNumeral d = false) : c ≠ d := by
  rintro rfl
  exact Bool.false_ne_true (other.symm.trans begins)

theorem Numeral.written_begins {numeral : Numeral} (proper : numeral.Proper) :
    ∃ c rest, numeral.written = c :: rest ∧ beginsNumeral c = true := by
  rw [Numeral.written]
  split
  · exact ⟨'-', _, rfl, rfl⟩
  · obtain ⟨c, rest, same⟩ := List.exists_cons_of_ne_nil proper.whole_ne_nil
    refine ⟨c, _, by rw [same]; rfl, ?_⟩
    rw [beginsNumeral, proper.whole_digits c (same ▸ List.mem_cons_self), Bool.or_true]

theorem Number.text_begins {n : Number} (fits : n.Fits) :
    ∃ c rest, n.text.toList = c :: rest ∧ beginsNumeral c = true := by
  obtain ⟨numeral, proper, written, -⟩ := Numeral.exists_written fits
  exact written ▸ Numeral.written_begins proper

theorem isSpace_of_beginsNumeral {c : Char} (begins : beginsNumeral c = true) :
    isSpace c = false := by
  cases space : isSpace c with
  | false => rfl
  | true =>
      simp only [isSpace, Bool.or_eq_true, beq_iff_eq] at space
      rcases space with ((rfl | rfl) | rfl) | rfl <;> exact absurd begins (by decide)

theorem value_numeral {c : Char} (begins : beginsNumeral c = true) (depth : Nat)
    (rest : List Char) : value depth (c :: rest) = number (c :: rest) := by
  have other {d : Char} (h : beginsNumeral d = false) {rest behind : List Char}
      (same : c :: rest = d :: behind) : False :=
    ne_of_beginsNumeral begins h (List.cons.inj same).1
  rw [value.eq_def]
  dsimp only
  rw [skipBlanks_cons (isSpace_of_beginsNumeral begins)]
  split
  case h_1 same => cases same
  case h_2 same => exact (other rfl same).elim
  case h_3 same => exact (other rfl same).elim
  case h_4 same => exact (other rfl same).elim
  case h_5 same => exact (other rfl same).elim
  case h_6 same => exact (other rfl same).elim
  case h_7 same => exact (other rfl same).elim
  case h_8 same => rw [same]

/-- A number is read again. -/
theorem value_number {n : Number} {rest : List Char} (fits : n.Fits) (stops : Stops rest)
    (depth : Nat) : value depth (n.text.toList ++ rest) = some (.number n.reread, rest) := by
  obtain ⟨c, others, begun, begins⟩ := Number.text_begins fits
  obtain ⟨numeral, read, denoted⟩ := Number.read?_text fits stops
  rw [begun, List.cons_append] at read ⊢
  rw [value_numeral begins, number, read]
  simp only [denoted, Option.map_some]

/-! ### All values -/

theorem value_word_null (depth : Nat) (rest : List Char) :
    value depth ("null".toList ++ rest) = some (.null, rest) := by
  rw [value.eq_def]
  rfl

theorem value_word_true (depth : Nat) (rest : List Char) :
    value depth ("true".toList ++ rest) = some (.bool true, rest) := by
  rw [value.eq_def]
  rfl

theorem value_word_false (depth : Nat) (rest : List Char) :
    value depth ("false".toList ++ rest) = some (.bool false, rest) := by
  rw [value.eq_def]
  rfl

theorem value_bracket (depth : Nat) (rest : List Char) : value (depth + 1) ('[' :: rest) =
    (itemsOrNone (value depth) ']' rest).map fun (items, behind) => (.array items, behind) := by
  rw [value.eq_def]
  rfl

theorem value_brace (depth : Nat) (rest : List Char) : value (depth + 1) ('{' :: rest) =
    (itemsOrNone (member (value depth)) '}' rest).map
      fun (members, behind) => (.object members, behind) := by
  rw [value.eq_def]
  rfl

theorem value_quoted (text : String) (depth : Nat) (rest : List Char) :
    value depth (quoted text ++ rest) = some (.string text, rest) := by
  have opened (others : List Char) : value depth ('"' :: others) =
      (stringBody others).map fun (body, behind) => (.string (String.ofList body), behind) := by
    rw [value.eq_def]
    rfl
  rw [quoted, List.cons_append, opened, stringBody_quoted, Option.map_some]
  exact congrArg (fun text => some (Value.string text, rest)) String.ofList_toList

theorem opens_writtenMember (layout : Layout) (depth : Nat) (member : String × Value) :
    Opens (writtenMember layout depth member) :=
  ⟨'"', _, rfl, rfl, by decide, by decide⟩

/-- The text of a value begins with a token. -/
theorem Value.Fits.opens {v : Value} {depth : Nat} (fits : v.Fits depth) (layout : Layout)
    (around : Nat) : Opens (v.written layout around) := by
  cases fits with
  | null => exact ⟨'n', _, rfl, rfl, by decide, by decide⟩
  | bool b =>
      cases b with
      | true => exact ⟨'t', _, rfl, rfl, by decide, by decide⟩
      | false => exact ⟨'f', _, rfl, rfl, by decide, by decide⟩
  | number fits =>
      obtain ⟨c, rest, begun, begins⟩ := Number.text_begins fits
      exact ⟨c, rest, begun, isSpace_of_beginsNumeral begins, ne_of_beginsNumeral begins rfl,
        ne_of_beginsNumeral begins rfl⟩
  | string text => exact ⟨'"', _, rfl, rfl, by decide, by decide⟩
  | @array depth items each =>
      cases items with
      | nil => exact ⟨'[', _, rfl, rfl, by decide, by decide⟩
      | cons first rest => exact ⟨'[', _, rfl, rfl, by decide, by decide⟩
  | @object depth members each =>
      cases members with
      | nil => exact ⟨'{', _, rfl, rfl, by decide, by decide⟩
      | cons first rest => exact ⟨'{', _, rfl, rfl, by decide, by decide⟩

/-- **A value that fits is read from its text in any layout**, at any depth of the writer and
with any text behind it that does not go on with it. -/
theorem value_written (layout : Layout) {v : Value} {depth : Nat} (fits : v.Fits depth)
    (around : Nat) {rest : List Char} (stops : Stops rest) :
    value depth (v.written layout around ++ rest) = some (v.reread, rest) := by
  induction fits generalizing around rest with
  | null => exact value_word_null _ rest
  | bool b =>
      cases b with
      | true => exact value_word_true _ rest
      | false => exact value_word_false _ rest
  | number fits => exact value_number fits stops _
  | string text => exact value_quoted text _ rest
  | @array depth items each ih =>
      cases items with
      | nil =>
          show value (depth + 1) ('[' :: ']' :: rest) = _
          rw [value_bracket, itemsOrNone_empty (Or.inl rfl)]
          rfl
      | cons first others =>
          have read := itemsOrNone_written (Or.inl rfl) (skips_value depth)
            (layout.blanks_gap (around + 1)) (layout.blanks_gap around)
            ((each first List.mem_cons_self).opens layout (around + 1))
            (fun item mem behind stops => ih item mem (around + 1) stops) rest
          rw [Value.written, writtenItems_eq, Value.reread, rereadItems_eq]
          simp only [List.cons_append, List.append_assoc, List.nil_append]
          rw [value_bracket, read]
          rfl
  | @object depth members each ih =>
      cases members with
      | nil =>
          show value (depth + 1) ('{' :: '}' :: rest) = _
          rw [value_brace, itemsOrNone_empty (Or.inr rfl)]
          rfl
      | cons first others =>
          have memberRead : ∀ x ∈ first :: others, ∀ behind, Stops behind →
              member (value depth) (writtenMember layout (around + 1) x ++ behind) =
                some ((x.1, x.2.reread), behind) := by
            intro x mem behind stops
            exact member_written (skips_value depth) layout.blanks_afterColon
              (ih x mem (around + 1) stops) x.1
          have read := itemsOrNone_written (Or.inr rfl) (skips_member (value depth))
            (layout.blanks_gap (around + 1)) (layout.blanks_gap around)
            (opens_writtenMember layout (around + 1) first) memberRead rest
          rw [Value.written, writtenMembers_eq, Value.reread, rereadMembers_eq]
          simp only [List.cons_append, List.append_assoc, List.nil_append, writtenMember]
            at read ⊢
          rw [value_brace, read]
          rfl

/-! ## Values without doubles -/

/-- A value that fits and whose numbers are all integers. -/
inductive Value.Integral : Nat → Value → Prop
  | null {depth : Nat} : Integral depth .null
  | bool {depth : Nat} (b : Bool) : Integral depth (.bool b)
  | integer {depth : Nat} {n : Int} (fits : (Number.integer n).Fits) :
      Integral depth (.number (.integer n))
  | string {depth : Nat} (text : String) : Integral depth (.string text)
  | array {depth : Nat} {items : List Value} (each : ∀ item ∈ items, Integral depth item) :
      Integral (depth + 1) (.array items)
  | object {depth : Nat} {members : List (String × Value)}
      (each : ∀ member ∈ members, Integral depth member.2) : Integral (depth + 1) (.object members)

theorem Value.Integral.fits {v : Value} {depth : Nat} (integral : v.Integral depth) :
    v.Fits depth := by
  induction integral with
  | null => exact .null
  | bool b => exact .bool b
  | integer fits => exact .number fits
  | string text => exact .string text
  | array _ ih => exact .array ih
  | object _ ih => exact .object ih

/-- A value without doubles is read as itself. -/
theorem Value.Integral.reread_eq {v : Value} {depth : Nat} (integral : v.Integral depth) :
    v.reread = v := by
  induction integral with
  | null => rfl
  | bool b => rfl
  | integer fits => rw [Value.reread, Number.reread_integer fits]
  | string text => rfl
  | @array depth items each ih =>
      rw [Value.reread, rereadItems_eq, List.map_congr_left ih, List.map_id']
  | @object depth members each ih =>
      have same : ∀ member ∈ members, (member.1, member.2.reread) = member :=
        fun member mem => by rw [ih member mem]
      rw [Value.reread, rereadMembers_eq, List.map_congr_left same, List.map_id']

/-! ## Whole texts -/

theorem read?_written (layout : Layout) {v : Value} (fits : v.Fits maxDepth) :
    read? (String.ofList (v.written layout 0)) = some v.reread := by
  have read := value_written layout fits 0 stops_nil
  rw [List.append_nil] at read
  rw [read?, String.toList_ofList, read]
  rfl

/-- **A value that fits is read from its text without blanks.** -/
theorem read?_compactText {v : Value} (fits : v.Fits maxDepth) :
    read? v.compactText = some v.reread := by
  rw [Value.compactText, Value.compact_eq 0]
  exact read?_written Layout.compact fits

/-- **A value that fits is read from its text on lines of its own.** -/
theorem read?_prettyText {v : Value} (fits : v.Fits maxDepth) :
    read? v.prettyText = some v.reread := by
  rw [Value.prettyText, Value.pretty_eq 0]
  exact read?_written Layout.pretty fits

theorem fromUTF8?_toUTF8 (text : String) : String.fromUTF8? text.toUTF8 = some text :=
  dif_pos text.isValidUTF8

theorem readBytes?_toUTF8 (text : String) : readBytes? text.toUTF8 = read? text := by
  rw [readBytes?, fromUTF8?_toUTF8, Option.bind_some]

/-! ## What is read -/

section Read

variable {α : Type} {item : Reader α} {close : Char} {P : α → Prop}

theorem items_each (each : ∀ text x rest, item text = some (x, rest) → P x) {text : List Char}
    {xs : List α} {rest : List Char} (h : items item close text = some (xs, rest)) :
    ∀ x ∈ xs, P x := by
  fun_induction items item close text generalizing xs rest with
  | case1 => cases h
  | case2 => cases h
  | case3 text first behind read =>
      obtain ⟨rfl, rfl⟩ := Prod.mk.inj (Option.some.inj h)
      intro x mem
      rw [List.mem_singleton.mp mem]
      exact each text first behind read
  | case4 text first behind read others less comma _ ih =>
      obtain ⟨⟨found, last⟩, readOthers, same⟩ := Option.map_eq_some_iff.mp h
      obtain ⟨rfl, rfl⟩ := Prod.mk.inj same
      intro x mem
      rcases List.mem_cons.mp mem with rfl | other
      · exact each text x behind read
      · exact ih readOthers x other
  | case5 => cases h
  | case6 => cases h

theorem itemsOrNone_each (each : ∀ text x rest, item text = some (x, rest) → P x)
    {text : List Char} {xs : List α} {rest : List Char}
    (h : itemsOrNone item close text = some (xs, rest)) : ∀ x ∈ xs, P x := by
  unfold itemsOrNone at h
  split at h
  · split at h
    · obtain ⟨rfl, rfl⟩ := Prod.mk.inj (Option.some.inj h)
      exact List.forall_mem_nil P
    · exact items_each each h
  · cases h

end Read

theorem member_each {α : Type} {reader : Reader α} {P : α → Prop}
    (each : ∀ text v rest, reader text = some (v, rest) → P v) {text : List Char}
    {x : String × α} {rest : List Char} (h : member reader text = some (x, rest)) : P x.2 := by
  unfold member at h
  split at h
  · cases h
  · split at h
    · obtain ⟨⟨v, behind⟩, read, same⟩ := Option.map_eq_some_iff.mp h
      obtain ⟨rfl, rfl⟩ := Prod.mk.inj same
      exact each _ v behind read
    · cases h

theorem value_of_word {letters : String} {v w : Value} {text rest : List Char}
    (h : word letters v text = some (w, rest)) : w = v := by
  unfold word at h
  split at h
  · exact (Prod.mk.inj (Option.some.inj h)).1.symm
  · cases h

/-- **Whatever is read fits.** -/
theorem fits_of_value {depth : Nat} {text : List Char} {v : Value} {rest : List Char}
    (h : value depth text = some (v, rest)) : v.Fits depth := by
  induction depth using Nat.strongRecOn generalizing text v rest with
  | ind depth ih =>
      rw [value.eq_def] at h
      dsimp only at h
      split at h
      case h_1 => cases h
      case h_2 => exact value_of_word h ▸ .null
      case h_3 => exact value_of_word h ▸ .bool true
      case h_4 => exact value_of_word h ▸ .bool false
      case h_5 =>
        obtain ⟨found, -, same⟩ := Option.map_eq_some_iff.mp h
        exact (Prod.mk.inj same).1 ▸ .string _
      case h_6 =>
        cases depth with
        | zero => cases h
        | succ depth =>
            obtain ⟨found, read, same⟩ := Option.map_eq_some_iff.mp h
            exact (Prod.mk.inj same).1 ▸ .array (itemsOrNone_each
              (fun _ _ _ => ih depth (Nat.lt_succ_self depth)) read)
      case h_7 =>
        cases depth with
        | zero => cases h
        | succ depth =>
            obtain ⟨found, read, same⟩ := Option.map_eq_some_iff.mp h
            exact (Prod.mk.inj same).1 ▸ .object (itemsOrNone_each
              (fun _ _ _ => member_each fun _ _ _ => ih depth (Nat.lt_succ_self depth)) read)
      case h_8 =>
        unfold number at h
        split at h
        · cases h
        · obtain ⟨n, denoted, same⟩ := Option.map_eq_some_iff.mp h
          exact (Prod.mk.inj same).1 ▸ .number (Numeral.fits_of_value? denoted)

theorem fits_of_read? {text : String} {v : Value} (h : read? text = some v) :
    v.Fits maxDepth := by
  unfold read? at h
  split at h
  · rename_i read
    split at h
    · exact Option.some.inj h ▸ fits_of_value read
    · cases h
  · cases h

end PatternRefinement.Json
