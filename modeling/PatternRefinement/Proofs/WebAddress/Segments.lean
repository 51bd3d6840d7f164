import Mathlib.Data.List.DropRight
import PatternRefinement.Service.Basic

/-!
# Segments of a path

What a slash behind a path adds to its segments.

## Main Definitions

* `withSegment` — what one more segment behind others leaves of them
* `isDots` — a segment that means another place than the one it names
* `lastSegment` — what stands behind the last slash of a path

## Main Statements

* `readSegments_concat_slash` — the segments of a path with one more slash behind it
* `withFinalSlash_render` — a slash behind a path that ends with a name is a slash behind its
  segments

## Design Notes

A last segment that means "here" or "one up" leaves an empty one behind, which is what a slash does.
So both end with the same segments, although the dots are carried out at different places.
-/

namespace PatternRefinement

/-! ## Paths as text -/

theorem AddressPath.render_append (front behind : List String) :
    (segments (front ++ behind)).render = (segments front).render ++ (segments behind).render := by
  simp only [render, List.map_append, String.join_append]

/-- A text that ends with a slash is left as it is. -/
theorem withFinalSlash_append_slash (text : String) : withFinalSlash (text ++ "/") = text ++ "/" :=
  if_pos (by simp)

theorem withFinalSlash_of_ne {text : String} (other : text.toList.getLast? ≠ some '/') :
    withFinalSlash text = text ++ "/" :=
  if_neg other

theorem render_concat (front : List String) (last : String) :
    (AddressPath.segments (front ++ [last])).render =
      (AddressPath.segments front).render ++ ("/" ++ last) := by
  rw [AddressPath.render_append]
  simp only [AddressPath.render, List.map_cons, List.map_nil, String.join_cons, String.join_nil,
    String.append_empty]

theorem render_concat_empty (front : List String) :
    (AddressPath.segments (front ++ [""])).render = (AddressPath.segments front).render ++ "/" :=
  render_concat front ""

/-- A path ends with a slash if its last segment is empty, unless this segment ends with a slash of
its own. -/
theorem getLast?_render_concat (front : List String) {last : String}
    (whole : last.toList.getLast? ≠ some '/') :
    (AddressPath.segments (front ++ [last])).render.toList.getLast? = some '/' ↔ last = "" := by
  rw [render_concat, String.toList_append, String.toList_append,
    List.getLast?_append_of_ne_nil _ (by simp)]
  rcases List.eq_nil_or_concat last.toList with empty | ⟨letters, c, spelled⟩
  · rw [empty]
    exact ⟨fun _ => String.toList_eq_nil_iff.mp empty, fun _ => rfl⟩
  · rw [spelled] at whole ⊢
    constructor
    · intro ends
      rw [List.getLast?_append_of_ne_nil _ (by simp)] at ends
      exact absurd ends whole
    · rintro rfl
      cases letters <;> cases spelled

/-- Only behind an empty last segment no slash is added. -/
theorem withFinalSlash_render_concat_iff (front : List String) {last : String}
    (whole : last.toList.getLast? ≠ some '/') :
    withFinalSlash (AddressPath.segments (front ++ [last])).render =
      (AddressPath.segments front).render ++ "/" ↔ last = "" := by
  constructor
  · intro same
    by_contra named
    rw [withFinalSlash_of_ne (mt (getLast?_render_concat front whole).mp named),
      render_concat] at same
    have lengths := congrArg String.length same
    simp only [String.length_append] at lengths
    exact named (String.length_eq_zero_iff.mp (by omega))
  · rintro rfl
    rw [render_concat_empty, withFinalSlash_append_slash]

/-! ## Carrying out dots -/

/-- What one more segment behind others leaves of them; the last one comes first. -/
def withSegment (done : List String) (segment : List Char) : List String :=
  if isUp segment then oneUp done
  else if isHere segment then done
  else placed isPathCharacter segment :: done

/-- Whether a segment means another place than the one it names. -/
def isDots (segment : List Char) : Bool := isUp segment || isHere segment

theorem withSegment_of_not_isDots {segment : List Char} (named : isDots segment = false)
    (done : List String) : withSegment done segment = placed isPathCharacter segment :: done := by
  obtain ⟨notUp, notHere⟩ := Bool.or_eq_false_iff.mp named
  rw [withSegment, notUp, notHere]
  rfl

theorem normalSegments_cons (done : List String) (segment : List Char) {rest : List (List Char)}
    (inside : rest ≠ []) :
    normalSegments done (segment :: rest) = normalSegments (withSegment done segment) rest := by
  rw [normalSegments.eq_3 done segment rest inside, withSegment]
  cases isUp segment <;> cases isHere segment <;> rfl

/-- Dots at the end of a path are carried out, and leave an empty segment behind. -/
theorem normalSegments_concat (done : List String) (front : List (List Char)) (last : List Char) :
    normalSegments done (front ++ [last]) =
      (withSegment (front.foldl withSegment done) last).reverse ++
        (if isDots last then [""] else []) := by
  induction front generalizing done with
  | nil =>
      rw [List.nil_append, normalSegments, List.foldl_nil, withSegment, isDots]
      cases isUp last <;> cases isHere last <;> simp
  | cons segment rest ih =>
      rw [List.cons_append, normalSegments_cons done segment (by simp), List.foldl_cons]
      exact ih _

/-! ## The last segment of a path -/

/-- What stands behind the last slash of a path. -/
def lastSegment (path : List Char) : List Char := path.rtakeWhile (!isSlash true ·)

theorem lastSegment_eq_nil_iff {path : List Char} :
    lastSegment path = [] ↔ ∀ c ∈ path.getLast?, isSlash true c = true := by
  rcases List.eq_nil_or_concat path with rfl | ⟨front, c, rfl⟩ <;> simp [lastSegment]

theorem not_isSlash_of_mem_lastSegment {path : List Char} :
    ∀ c ∈ lastSegment path, isSlash true c = false := fun c mem => by
  simpa using List.mem_rtakeWhile_imp mem

/-- A path is split at its last slash, and in front of it. -/
theorem exists_splitOnP_eq (path : List Char) :
    ∃ front, path.splitOnP (isSlash true) = front ++ [lastSegment path] := by
  have single : (lastSegment path).splitOnP (isSlash true) = [lastSegment path] :=
    List.splitOnP_eq_singleton not_isSlash_of_mem_lastSegment
  have whole : path.rdropWhile (!isSlash true ·) ++ lastSegment path = path :=
    List.rdropWhile_append_rtakeWhile
  rcases List.eq_nil_or_concat (path.rdropWhile (!isSlash true ·)) with none | ⟨front, c, some⟩
  · rw [none, List.nil_append] at whole
    exact ⟨[], by rwa [whole] at single ⊢⟩
  · have slash : isSlash true c = true := by
      have last := List.rdropWhile_last_not (!isSlash true ·) path (by simp [some])
      simpa [some] using last
    refine ⟨front.splitOnP (isSlash true), ?_⟩
    rw [some, List.concat_append] at whole
    conv_lhs => rw [← whole]
    rw [List.splitOnP_append_cons front (lastSegment path) slash, single]

/-! ## What a place does not admit -/

theorem hexDigit_ne_slash {n : Nat} (small : n < 16) : Text.Percent.hexDigit n ≠ '/' := by
  revert n
  decide

/-- Escapes hold no slash. -/
theorem slash_not_mem_placed (admits : Char → Bool) {text : List Char} (absent : '/' ∉ text) :
    '/' ∉ (placed admits text).toList := by
  rw [placed, String.toList_ofList, Text.Percent.encode]
  intro mem
  obtain ⟨c, inside, mem⟩ := List.mem_flatMap.mp mem
  split at mem
  · exact absent (List.mem_singleton.mp mem ▸ inside)
  · obtain ⟨byte, -, mem⟩ := List.mem_flatMap.mp mem
    have bound := byte.toNat_lt
    simp only [Text.Percent.escape, List.mem_cons, List.not_mem_nil, or_false] at mem
    rcases mem with same | same | same
    · cases same
    · exact hexDigit_ne_slash (by omega) same.symm
    · exact hexDigit_ne_slash (Nat.mod_lt _ (by omega)) same.symm

theorem placed_eq_empty_iff {admits : Char → Bool} {text : List Char} :
    placed admits text = "" ↔ text = [] := by
  rw [placed, String.ofList_eq_empty_iff, Text.Percent.encode, List.flatMap_eq_nil_iff]
  constructor
  · intro none
    cases text with
    | nil => rfl
    | cons c rest =>
        have escaped := none c List.mem_cons_self
        obtain ⟨byte, bytes, encoded⟩ :=
          List.exists_cons_of_ne_nil (String.utf8EncodeChar_ne_nil (c := c))
        split at escaped
        · cases escaped
        · rw [encoded] at escaped
          cases escaped
  · rintro rfl
    exact List.forall_mem_nil _

/-! ## Paths with a slash behind them -/

/-- A slash behind a path leaves out what dots do at its end, and adds an empty segment. -/
theorem readSegments_concat_slash (path : List Char) : ∃ front,
    readSegments true path = front ++ (if isDots (lastSegment path) then [""] else []) ∧
    readSegments true (path ++ ['/']) = front ++ [""] ∧
    (isDots (lastSegment path) = false →
      ∃ before, front = before ++ [placed isPathCharacter (lastSegment path)]) := by
  obtain ⟨front, split⟩ := exists_splitOnP_eq path
  have behind : (path ++ ['/']).splitOnP (isSlash true) =
      (front ++ [lastSegment path]) ++ [[]] := by
    rw [List.splitOnP_append_cons path [] (by decide), split, List.splitOnP_nil]
  refine ⟨(withSegment (front.foldl withSegment []) (lastSegment path)).reverse, ?_, ?_, ?_⟩
  · rw [readSegments, split, normalSegments_concat]
  · rw [readSegments, behind, normalSegments_concat, List.foldl_append]
    rw [withSegment_of_not_isDots (by decide), List.reverse_cons, if_neg (by decide),
      List.append_nil]
    rfl
  · intro named
    exact ⟨_, by rw [withSegment_of_not_isDots named, List.reverse_cons]⟩

theorem getLast?_placed_lastSegment (path : List Char) :
    (placed isPathCharacter (lastSegment path)).toList.getLast? ≠ some '/' := fun ends =>
  slash_not_mem_placed isPathCharacter
    (fun mem => by cases not_isSlash_of_mem_lastSegment _ mem) (List.mem_of_getLast? ends)

/-- No path ends with a segment that ends with a slash. -/
theorem exists_readSegments_eq (path : List Char) : ∃ front last,
    readSegments true path = front ++ [last] ∧ last.toList.getLast? ≠ some '/' := by
  obtain ⟨front, found, -, named⟩ := readSegments_concat_slash path
  cases dots : isDots (lastSegment path) with
  | true => exact ⟨front, "", by rw [found, dots]; rfl, nofun⟩
  | false =>
      obtain ⟨before, rfl⟩ := named dots
      refine ⟨before, _, ?_, getLast?_placed_lastSegment path⟩
      rw [found, dots, if_neg Bool.false_ne_true, List.append_nil]

/-- A slash behind a path that ends with one adds an empty segment. -/
theorem readSegments_of_lastSegment {path : List Char} (ends : lastSegment path = []) :
    ∃ front, readSegments true path = front ++ [""] ∧
      readSegments true (path ++ ['/']) = front ++ ["", ""] := by
  obtain ⟨front, found, behind, named⟩ := readSegments_concat_slash path
  rw [ends] at found named
  obtain ⟨before, rfl⟩ := named (by decide)
  refine ⟨before, ?_, ?_⟩
  · rw [found, if_neg (by decide), List.append_nil]
    rfl
  · rw [behind, List.append_assoc]
    rfl

/-- **A slash behind a path that ends with a name is a slash behind its segments.** -/
theorem withFinalSlash_render {path : List Char} (named : lastSegment path ≠ []) :
    ∃ front, readSegments true (path ++ ['/']) = front ++ [""] ∧
      withFinalSlash (AddressPath.segments (readSegments true path)).render =
        (AddressPath.segments (front ++ [""])).render := by
  obtain ⟨front, found, behind, plain⟩ := readSegments_concat_slash path
  refine ⟨front, behind, ?_⟩
  cases dots : isDots (lastSegment path) with
  | true =>
      rw [found, dots, if_pos rfl, render_concat_empty]
      exact withFinalSlash_append_slash _
  | false =>
      obtain ⟨before, rfl⟩ := plain dots
      rw [found, dots, if_neg Bool.false_ne_true, List.append_nil, render_concat_empty]
      refine withFinalSlash_of_ne fun ends => named ?_
      exact placed_eq_empty_iff.mp
        ((getLast?_render_concat before (getLast?_placed_lastSegment path)).mp ends)

end PatternRefinement
