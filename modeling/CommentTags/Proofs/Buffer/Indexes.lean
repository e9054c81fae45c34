import Mathlib.Order.Monotone.Basic
import CommentTags.Document
import CommentTags.Proofs.Buffer.Lines

/-!
Positions and the indexes of characters. The lines follow one another without a gap, so each place
of a text has a position, and a later position never has an earlier index; the end of a line and
the start of the next are one place.
-/
namespace CommentTags

namespace Buffer

variable {b : Buffer} {i j k : Nat} {l : Line} {p q : Position}
  {e : BufferError}

theorem lineStart_succ (h : b.line? i = some l) :
    b.lineStart (i + 1) = b.lineStart i + l.whole.length := by
  rw [lineStart, take_succ_of_line? h, List.flatMap_append, List.length_append,
    List.flatMap_singleton]
  rfl

theorem lineStart_mono (b : Buffer) : Monotone b.lineStart := by
  refine monotone_nat_of_le_succ fun n => ?_
  rw [lineStart, lineStart, List.take_add_one, List.flatMap_append, List.length_append]
  exact Nat.le_add_right _ _

theorem lineStart_add_le_size (h : b.line? i = some l) :
    b.lineStart i + l.whole.length ≤ b.size := by
  obtain ⟨before, after, hchars, hbefore⟩ := exists_around_line h
  rw [size, hchars, hbefore, List.length_append, List.length_append]
  exact Nat.le_add_right _ _

theorem index_le_size (h : b.index p = .ok i) : i ≤ b.size := by
  obtain ⟨l, hl, hc, rfl⟩ := index_eq_ok_iff.mp h
  exact (Nat.add_le_add_left hc _).trans (lineStart_add_le_size hl)

/-- A position on an earlier line has its index no later than the next line starts. -/
theorem index_mono (hp : b.index p = .ok i) (hq : b.index q = .ok j) (hle : p ≤ q) : i ≤ j := by
  obtain ⟨l, hl, hc, rfl⟩ := index_eq_ok_iff.mp hp
  obtain ⟨-, -, -, rfl⟩ := index_eq_ok_iff.mp hq
  rcases Position.le_def.mp hle with hlt | ⟨heq, hcolumn⟩
  · calc b.lineStart p.line + p.column
        ≤ b.lineStart p.line + l.whole.length := Nat.add_le_add_left hc _
      _ = b.lineStart (p.line + 1) := (lineStart_succ hl).symm
      _ ≤ b.lineStart q.line := b.lineStart_mono hlt
      _ ≤ b.lineStart q.line + q.column := Nat.le_add_right _ _
  · rw [heq]
    exact Nat.add_le_add_left hcolumn _

/-- Going along the lines, each index is passed on one of them. -/
theorem exists_column {ls : List Line} (hne : ls ≠ [])
    (hi : i ≤ (ls.flatMap Line.whole).length) :
    ∃ k l column, ls[k]? = some l ∧ column ≤ l.whole.length ∧
      ((ls.take k).flatMap Line.whole).length + column = i := by
  induction ls generalizing i with
  | nil => exact (hne rfl).elim
  | cons first rest ih =>
    by_cases hfirst : i ≤ first.whole.length
    · exact ⟨0, first, i, rfl, hfirst, Nat.zero_add i⟩
    · rw [List.flatMap_cons, List.length_append] at hi
      have hrest : rest ≠ [] := by
        rintro rfl
        exact hfirst hi
      obtain ⟨k, l, column, hl, hc, hk⟩ :=
        ih hrest (i := i - first.whole.length) (by omega)
      refine ⟨k + 1, l, column, hl, hc, ?_⟩
      rw [List.take_succ_cons, List.flatMap_cons, List.length_append]
      omega

theorem exists_index_eq_iff : (∃ p, b.index p = .ok i) ↔ i ≤ b.size := by
  refine ⟨fun ⟨p, hp⟩ => index_le_size hp, fun hi => ?_⟩
  rw [size, ← Text.flatMap_whole_lines b.chars] at hi
  obtain ⟨k, l, column, hl, hc, hk⟩ := exists_column (Text.lines_ne_nil b.chars) hi
  exact ⟨⟨k, column⟩, index_eq_ok_iff.mpr ⟨l, hl, hc, hk⟩⟩

/-- The characters of a line stand at the indexes of its columns. -/
theorem getElem?_index (h : b.line? k = some l) {column : Nat} {c : Char}
    (hc : l.whole[column]? = some c) :
    ∃ i, b.index ⟨k, column⟩ = .ok i ∧ b.chars[i]? = some c := by
  have hcolumn : column < l.whole.length := (List.getElem?_eq_some_iff.mp hc).1
  refine ⟨_, index_eq_ok_iff.mpr ⟨l, h, hcolumn.le, rfl⟩, ?_⟩
  obtain ⟨before, after, hchars, hbefore⟩ := exists_around_line h
  rw [hchars, hbefore, List.append_assoc, List.getElem?_append_right (Nat.le_add_right _ _),
    Nat.add_sub_cancel_left, List.getElem?_append_left hcolumn]
  exact hc

theorem index_eq_error (h : b.index p = .error e) : e = .positionOutOfBounds p := by
  rw [index] at h
  split at h
  case h_1 => exact (Except.error.inj h).symm
  case h_2 =>
    split at h
    case isTrue => cases h
    case isFalse => exact (Except.error.inj h).symm

/-- The index of a position is one at which a text can be put in. -/
theorem insertAt_eq_map (b : Buffer) (p : Position) (t : Text) :
    b.insertAt p t = (b.index p).map fun i => b.splice i i t := by
  rw [insertAt]
  cases hp : b.index p with
  | error e => rfl
  | ok i => exact if_pos (index_le_size hp)

end Buffer

theorem Document.delete_eq {d : Document} {start stop : Position} {i j : Nat}
    (hi : d.buffer.index start = .ok i) (hj : d.buffer.index stop = .ok j) :
    d.delete start stop =
      if i ≤ j then .ok (d.buffer.slice i j, d.withBuffer (d.buffer.splice i j []))
      else .error (.invalidIndex j) := by
  have hsize : j ≤ d.buffer.size := Buffer.index_le_size hj
  rw [delete, hi, hj]
  change (d.buffer.delete i j >>= _) = _
  rw [Buffer.delete]
  by_cases hle : i ≤ j
  · rw [if_pos ⟨hle, hsize⟩, if_pos hle]
    rfl
  · rw [if_neg fun h => hle h.1, if_neg hle]
    rfl

namespace Buffer

/-- Positions and the indexes of characters. A position has an index when its line is there and its
column no further than the end of this line, terminator included; a later position has no earlier
index; the indexes are those from the start of the text to its end; and the characters of a line
stand at its columns. So no index is out of bounds where a text is put in at a position, and what
is between two positions can be deleted unless the second is the earlier place. -/
theorem index_correspondence (b : Buffer) :
    (∀ p, (∃ i, b.index p = .ok i) ↔
      p.line < b.lineCount ∧ ∃ l, b.line? p.line = some l ∧ p.column ≤ l.whole.length) ∧
    (∀ p q i j, b.index p = .ok i → b.index q = .ok j → p ≤ q → i ≤ j) ∧
    (∀ i, (∃ p, b.index p = .ok i) ↔ i ≤ b.size) ∧
    (∀ k l, b.line? k = some l → ∀ column c, l.whole[column]? = some c →
      ∃ i, b.index ⟨k, column⟩ = .ok i ∧ b.chars[i]? = some c) ∧
    (∀ p t e, b.insertAt p t = .error e → e = .positionOutOfBounds p) ∧
    ∀ d : Document, d.buffer = b → ∀ start stop i j,
      b.index start = .ok i → b.index stop = .ok j →
        ((∃ e, d.delete start stop = .error e) ↔ j < i) ∧
        (start ≤ stop → ∃ removed rest, d.delete start stop = .ok (removed, rest)) := by
  refine ⟨fun p => ?_, fun p q i j => index_mono, fun i => exists_index_eq_iff,
    fun k l hl column c => getElem?_index hl, fun p t e herror => ?_, ?_⟩
  · constructor
    · rintro ⟨i, hi⟩
      obtain ⟨l, hl, hc, -⟩ := index_eq_ok_iff.mp hi
      exact ⟨exists_line?_iff.mp ⟨l, hl⟩, l, hl, hc⟩
    · rintro ⟨-, l, hl, hc⟩
      exact ⟨_, index_eq_ok_iff.mpr ⟨l, hl, hc, rfl⟩⟩
  · rw [insertAt_eq_map] at herror
    cases hp : b.index p with
    | error e' =>
      rw [hp] at herror
      cases herror
      exact index_eq_error hp
    | ok i =>
      rw [hp] at herror
      cases herror
  · rintro d rfl start stop i j hi hj
    rw [Document.delete_eq hi hj]
    constructor
    · by_cases hle : i ≤ j
      · rw [if_pos hle]
        exact iff_of_false (fun ⟨e, he⟩ => nomatch he) (Nat.not_lt.mpr hle)
      · rw [if_neg hle]
        exact iff_of_true ⟨_, rfl⟩ (Nat.lt_of_not_le hle)
    · intro hle
      rw [if_pos (index_mono hi hj hle)]
      exact ⟨_, _, rfl⟩

/-- The end of the first line, behind its carriage return and line feed, and the start of the
second are one place; from the first to the second nothing is deleted. -/
theorem index_correspondence_lineEnd :
    let d := Document.ofText "a" "python" "a\r\né".toList
    d.buffer.index ⟨0, 3⟩ = .ok 3 ∧ d.buffer.index ⟨1, 0⟩ = .ok 3 ∧
      ((∃ e, d.delete ⟨0, 3⟩ ⟨1, 0⟩ = .error e) ↔ 3 < 3) ∧
      ∃ removed rest, d.delete ⟨0, 3⟩ ⟨1, 0⟩ = .ok (removed, rest) := by
  intro d
  have hend : d.buffer.index ⟨0, 3⟩ = .ok 3 := rfl
  have hstart : d.buffer.index ⟨1, 0⟩ = .ok 3 := rfl
  obtain ⟨-, -, -, -, -, hdelete⟩ := index_correspondence d.buffer
  obtain ⟨hiff, hle⟩ := hdelete d rfl _ _ _ _ hend hstart
  exact ⟨hend, hstart, hiff, hle (by decide)⟩

end Buffer

end CommentTags
