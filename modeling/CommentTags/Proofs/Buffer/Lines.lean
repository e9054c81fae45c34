import Mathlib.Data.List.Basic
import CommentTags.Buffer

/-!
Lines and the text they come from. The lines are the text cut into pieces, so a column of a line
is a place in the text; and a line feed parts the lines before it from those after it.
-/
namespace CommentTags

namespace Text

theorem lines_ne_nil (t : Text) : t.lines ≠ [] := by
  induction t using lines.induct with
  | case1 => simp [lines]
  | case2 t _ => simp [lines]
  | case3 t _ => simp [lines]
  | case4 t ht _ => simp [lines.eq_4 t ht]
  | case5 c t _ _ _ hnone ih => exact (ih hnone).elim
  | case6 c t hn hr hc l ls hls _ => simp [lines.eq_5 c t hn hr hc, hls]

/-- A character that ends no line stands in front of the first line. -/
theorem lines_cons {c : Char} (hn : c ≠ '\n') (hr : c ≠ '\r') (t : Text) :
    ∃ l ls, t.lines = l :: ls ∧ lines (c :: t) = l.cons c :: ls := by
  obtain ⟨l, ls, hls⟩ := List.exists_cons_of_ne_nil (lines_ne_nil t)
  refine ⟨l, ls, hls, ?_⟩
  rw [lines.eq_5 c t hn (fun _ h => (hr h).elim) hr, hls]

theorem lines_carriageReturn {t : Text} (h : t.head? ≠ some '\n') :
    lines ('\r' :: t) = ⟨[], .carriageReturn⟩ :: t.lines := by
  refine lines.eq_4 t fun rest hrest => h ?_
  rw [hrest]
  rfl

/-- The lines with their terminators are the text. -/
theorem flatMap_whole_lines (t : Text) : t.lines.flatMap Line.whole = t := by
  induction t using lines.induct with
  | case1 => rfl
  | case2 t ih => rw [lines, List.flatMap_cons, ih]; rfl
  | case3 t ih => rw [lines, List.flatMap_cons, ih]; rfl
  | case4 t ht ih => rw [lines.eq_4 t ht, List.flatMap_cons, ih]; rfl
  | case5 c t _ _ _ hnone _ => exact (lines_ne_nil t hnone).elim
  | case6 c t hn hr hc l ls hls ih =>
    rw [hls, List.flatMap_cons] at ih
    rw [lines.eq_5 c t hn hr hc, hls, List.flatMap_cons]
    exact congrArg (c :: ·) ih

/-- The lines up to a line feed do not depend on what comes after it. -/
theorem lines_append_lineFeed (a : Text) :
    ∃ before, before ≠ [] ∧ ∀ b : Text, lines (a ++ '\n' :: b) = before ++ b.lines := by
  induction a using lines.induct with
  | case1 => exact ⟨[⟨[], .lineFeed⟩], by simp, fun b => rfl⟩
  | case2 t ih =>
    obtain ⟨before, -, h⟩ := ih
    exact ⟨⟨[], .lineFeed⟩ :: before, by simp, fun b => congrArg (_ :: ·) (h b)⟩
  | case3 t ih =>
    obtain ⟨before, -, h⟩ := ih
    exact ⟨⟨[], .both⟩ :: before, by simp, fun b => congrArg (_ :: ·) (h b)⟩
  | case4 t ht ih =>
    cases t with
    | nil => exact ⟨[⟨[], .both⟩], by simp, fun b => rfl⟩
    | cons d t =>
      obtain ⟨before, -, h⟩ := ih
      refine ⟨⟨[], .carriageReturn⟩ :: before, by simp, fun b => ?_⟩
      have hd : (d :: t ++ '\n' :: b).head? ≠ some '\n' := by
        intro hd
        exact ht t (by rw [Option.some.inj hd])
      rw [List.cons_append, lines_carriageReturn hd, h b, List.cons_append]
  | case5 c t _ _ _ hnone _ => exact (lines_ne_nil t hnone).elim
  | case6 c t hn _ hc l ls _ ih =>
    obtain ⟨before, hbefore, h⟩ := ih
    obtain ⟨first, rest, rfl⟩ := List.exists_cons_of_ne_nil hbefore
    refine ⟨first.cons c :: rest, by simp, fun b => ?_⟩
    obtain ⟨l, ls, hls, hlines⟩ := lines_cons hn hc (t ++ '\n' :: b)
    rw [h b, List.cons_append] at hls
    obtain ⟨rfl, rfl⟩ := List.cons.inj hls
    rw [List.cons_append, hlines, List.cons_append]

end Text

namespace Buffer

variable {b : Buffer} {i : Nat} {l : Line}

theorem lines_eq_around_line (h : b.line? i = some l) :
    b.lines = b.lines.take i ++ l :: b.lines.drop (i + 1) := by
  obtain ⟨hi, rfl⟩ := List.getElem?_eq_some_iff.mp h
  rw [List.getElem_cons_drop, List.take_append_drop]

theorem take_succ_of_line? (h : b.line? i = some l) :
    b.lines.take (i + 1) = b.lines.take i ++ [l] := by
  have hline : b.lines[i]? = some l := h
  rw [List.take_add_one, hline]
  rfl

/-- A text around one of its lines. -/
theorem chars_eq_around_line (h : b.line? i = some l) :
    b.chars = (b.lines.take i).flatMap Line.whole ++
      (l.text ++ (l.terminator.text ++ (b.lines.drop (i + 1)).flatMap Line.whole)) := by
  calc b.chars
      = b.lines.flatMap Line.whole := (Text.flatMap_whole_lines b.chars).symm
    _ = (b.lines.take i ++ l :: b.lines.drop (i + 1)).flatMap Line.whole := by
      rw [← lines_eq_around_line h]
    _ = _ := by rw [List.flatMap_append, List.flatMap_cons, Line.whole, List.append_assoc]

/-- The text before a line, the line, and the text after it. -/
theorem exists_around_line (h : b.line? i = some l) :
    ∃ before after, b.chars = before ++ l.whole ++ after ∧ b.lineStart i = before.length := by
  refine ⟨(b.lines.take i).flatMap Line.whole, (b.lines.drop (i + 1)).flatMap Line.whole, ?_, rfl⟩
  rw [chars_eq_around_line h, Line.whole]
  simp only [List.append_assoc]

theorem exists_line?_iff : (∃ l, b.line? i = some l) ↔ i < b.lineCount := by
  rw [← Option.isSome_iff_exists, line?, isSome_getElem?, lineCount]

theorem lineText_eq (h : b.line? i = some l) : b.lineText i = .ok l.text := by
  rw [lineText, line, h]
  rfl

/-- A position has an index when its line is there and its column no further than the end of the
line, terminator included. -/
theorem index_eq_ok_iff {p : Position} {index : Nat} :
    b.index p = .ok index ↔ ∃ l, b.line? p.line = some l ∧ p.column ≤ l.whole.length ∧
      b.lineStart p.line + p.column = index := by
  rw [Buffer.index]
  split
  case h_1 hnone => simp [hnone]
  case h_2 l hl =>
    rw [hl]
    split
    case isTrue hc => simp [hc]
    case isFalse hc => simp [hc]

theorem index_of_le (h : b.line? i = some l) {column : Nat} (hc : column ≤ l.text.length) :
    b.index ⟨i, column⟩ = .ok (b.lineStart i + column) := by
  refine index_eq_ok_iff.mpr ⟨l, h, ?_, rfl⟩
  rw [Line.whole, List.length_append]
  exact Nat.le_add_right_of_le hc

/-- Between two columns of a line stands what the line's text has there. -/
theorem delete_columns (h : b.line? i = some l) {start stop : Nat} (hle : start ≤ stop)
    (hstop : stop ≤ l.text.length) :
    ∃ rest, b.delete (b.lineStart i + start) (b.lineStart i + stop) =
      .ok ((l.text.drop start).take (stop - start), rest) := by
  obtain ⟨before, after, hchars, hbefore⟩ := exists_around_line h
  have hsize : b.lineStart i + start ≤ b.lineStart i + stop ∧ b.lineStart i + stop ≤ b.size := by
    rw [size, hchars, hbefore, Line.whole]
    simp only [List.length_append]
    omega
  have hslice : b.slice (b.lineStart i + start) (b.lineStart i + stop) =
      (l.text.drop start).take (stop - start) := by
    have hlength : b.lineStart i + stop - (b.lineStart i + start) = stop - start := by omega
    have hdrop : (b.chars.drop (b.lineStart i + start)) =
        l.text.drop start ++ (l.terminator.text ++ after) := by
      rw [hchars, hbefore, Line.whole, List.append_assoc, List.drop_length_add_append,
        List.append_assoc, List.drop_append_of_le_length (Nat.le_trans hle hstop)]
    rw [slice, hlength, hdrop, List.take_append_of_le_length]
    rw [List.length_drop]
    omega
  refine ⟨b.splice (b.lineStart i + start) (b.lineStart i + stop) [], ?_⟩
  rw [delete, if_pos hsize, hslice]

end Buffer

end CommentTags
