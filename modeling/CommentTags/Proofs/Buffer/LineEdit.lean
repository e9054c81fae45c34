import CommentTags.Proofs.Buffer.Breaks

/-!
Edits within one line. A text that ends no line, put into a line or in the place of its text, leaves
the terminator of the line and all other lines as they are. Only where a line becomes empty between
a lone carriage return and its own line feed do these two become one line end.
-/
namespace CommentTags

namespace Text

variable {new : Text} {l above : Line} {before after : List Line}

/-- Another text for one of the lines, unless the line becomes empty between a lone carriage return
and its own line feed. -/
theorem AreLines.exchangeAt (h : AreLines (before ++ l :: after)) (hnew : new.IsUnbroken)
    (hjoin : ¬Joins before (⟨new, l.terminator⟩ :: after)) :
    AreLines (before ++ ⟨new, l.terminator⟩ :: after) := by
  obtain ⟨hbefore, -, hrest⟩ := (areLines_append (List.cons_ne_nil l after)).mp h
  exact (areLines_append (List.cons_ne_nil _ after)).mpr ⟨hbefore, hjoin, hrest.exchange hnew⟩

/-- The line above an emptied one may end in both of their terminators. -/
theorem AreLines.join (h : AreLines (before ++ above :: l :: after))
    (hl : l.terminator ≠ .unterminated) : AreLines (before ++ ⟨above.text, .both⟩ :: after) := by
  obtain ⟨hbefore, -, hrest⟩ := (areLines_append (List.cons_ne_nil above _)).mp h
  obtain ⟨htext, -, -, hafter⟩ := (areLines_cons (List.cons_ne_nil l after)).mp hrest
  refine (areLines_append (List.cons_ne_nil _ after)).mpr ⟨hbefore, fun hjoin => ?_, ?_⟩
  · cases congrArg (Option.map Line.terminator) hjoin.2
  · cases hafter with
    | last _ => exact (hl rfl).elim
    | more _ _ _ hafter => exact .more htext nofun (not_joins_of_ne nofun) hafter

end Text

namespace Buffer

variable {b edited : Buffer} {i : Nat} {l : Line} {new : Text}

theorem insert_append (before after new : Text) :
    (⟨before ++ after⟩ : Buffer).insert before.length new = .ok ⟨before ++ (new ++ after)⟩ := by
  have hsize : before.length ≤ (⟨before ++ after⟩ : Buffer).size := by
    simp only [size, List.length_append]
    omega
  rw [insert, if_pos hsize, splice]
  simp

theorem replace_append (before old after new : Text) :
    (⟨before ++ (old ++ after)⟩ : Buffer).replace before.length (before.length + old.length) new =
      .ok (old, ⟨before ++ (new ++ after)⟩) := by
  have hdelete : (⟨before ++ (old ++ after)⟩ : Buffer).delete before.length
      (before.length + old.length) = .ok (old, ⟨before ++ after⟩) := by
    have hsize : before.length ≤ before.length + old.length ∧
        before.length + old.length ≤ (⟨before ++ (old ++ after)⟩ : Buffer).size := by
      simp only [size, List.length_append]
      omega
    rw [delete, if_pos hsize, slice, splice]
    simp [List.drop_length_add_append]
  rw [replace, hdelete]
  change (Buffer.insert _ _ _ >>= _) = _
  rw [insert_append]
  rfl

/-- The text with another line in the place of one. -/
def withLine (b : Buffer) (i : Nat) (l : Line) : Buffer :=
  ⟨(b.lines.set i l).flatMap Line.whole⟩

theorem set_eq_around_line (h : b.line? i = some l) (new : Line) :
    b.lines.set i new = b.lines.take i ++ new :: b.lines.drop (i + 1) := by
  have hi : i < b.lines.length := (List.getElem?_eq_some_iff.mp h).1
  rw [List.set_eq_take_append_cons_drop, if_pos hi]

theorem withLine_eq (h : b.line? i = some l) (new : Line) :
    b.withLine i new =
      ⟨(b.lines.take i).flatMap Line.whole ++
        (new.text ++ (new.terminator.text ++ (b.lines.drop (i + 1)).flatMap Line.whole))⟩ := by
  rw [withLine, set_eq_around_line h, List.flatMap_append, List.flatMap_cons, Line.whole,
    List.append_assoc]

/-- An edit of a line exchanges its text alone. -/
theorem replaceLine_eq (h : b.line? i = some l) (new : Text) :
    b.replaceLine i new = .ok (l.text, b.withLine i ⟨new, l.terminator⟩) := by
  have hindex : b.index ⟨i, 0⟩ = .ok (b.lineStart i) := index_of_le h (Nat.zero_le _)
  have hreplace := replace_append ((b.lines.take i).flatMap Line.whole) l.text
    (l.terminator.text ++ (b.lines.drop (i + 1)).flatMap Line.whole) new
  rw [← chars_eq_around_line h] at hreplace
  rw [replaceLine, hindex, lineText_eq h, withLine_eq h]
  exact hreplace

/-- A text put in at a column of a line is put into the text of this line. -/
theorem insertAt_eq (h : b.line? i = some l) {column : Nat} (hc : column ≤ l.text.length)
    (new : Text) :
    b.insertAt ⟨i, column⟩ new =
      .ok (b.withLine i ⟨l.text.take column ++ new ++ l.text.drop column, l.terminator⟩) := by
  have hlength : ((b.lines.take i).flatMap Line.whole ++ l.text.take column).length =
      b.lineStart i + column := by
    rw [List.length_append, List.length_take_of_le hc]
    rfl
  have hchars : (b.lines.take i).flatMap Line.whole ++ l.text.take column ++
      (l.text.drop column ++ (l.terminator.text ++ (b.lines.drop (i + 1)).flatMap Line.whole)) =
        b.chars := by
    rw [List.append_assoc, ← List.append_assoc (l.text.take column), List.take_append_drop,
      ← chars_eq_around_line h]
  have hinsert := insert_append ((b.lines.take i).flatMap Line.whole ++ l.text.take column)
    (l.text.drop column ++ (l.terminator.text ++ (b.lines.drop (i + 1)).flatMap Line.whole)) new
  rw [hchars, hlength] at hinsert
  rw [insertAt, index_of_le h hc, withLine_eq h]
  simp only [List.append_assoc] at hinsert ⊢
  exact hinsert

theorem mem_chars_withLine (h : b.line? i = some l) {c : Char}
    (hc : c ∈ (b.withLine i ⟨new, l.terminator⟩).chars) : c ∈ b.chars ∨ c ∈ new := by
  rw [withLine_eq h] at hc
  rw [chars_eq_around_line h]
  simp only [List.mem_append] at hc ⊢
  tauto

/-- Two texts that differ in the text of one line: it is `t` in the second, ends as it did, and all
other lines are the same. -/
structure DiffersInLine (b edited : Buffer) (i : Nat) (t : Text) : Prop where
  lineCount_eq : edited.lineCount = b.lineCount
  lineText_eq : edited.lineText i = .ok t
  terminator_eq : (edited.line? i).map Line.terminator = (b.line? i).map Line.terminator
  line?_eq : ∀ k, k ≠ i → edited.line? k = b.line? k

/-- With the text `t` the line would be empty, between the carriage return of the line above and a
line feed of its own. -/
def ClosesUp (b : Buffer) (i : Nat) (t : Text) : Prop :=
  t = [] ∧ ∃ k above l, i = k + 1 ∧ b.line? k = some above ∧ above.terminator = .carriageReturn ∧
    b.line? i = some l ∧ l.terminator = .lineFeed

theorem differsInLine_of_lines (h : b.line? i = some l)
    (hlines : edited.lines = b.lines.set i ⟨new, l.terminator⟩) : b.DiffersInLine edited i new := by
  have hi : i < b.lines.length := (List.getElem?_eq_some_iff.mp h).1
  have hline : edited.line? i = some ⟨new, l.terminator⟩ := by
    rw [line?, hlines, List.getElem?_set_self hi]
  refine ⟨?_, ?_, ?_, ?_⟩
  · rw [lineCount, hlines, List.length_set]
    rfl
  · rw [lineText, line, hline]
    rfl
  · rw [hline, h]
    rfl
  · intro k hk
    rw [line?, hlines, List.getElem?_set_ne hk.symm]
    rfl

theorem joins_iff_closesUp (h : b.line? i = some l) :
    Text.Joins (b.lines.take i) (⟨new, l.terminator⟩ :: b.lines.drop (i + 1)) ↔
      b.ClosesUp i new := by
  constructor
  · rintro ⟨habove, hline⟩
    obtain ⟨hnew, hterminator⟩ := Line.mk.inj (Option.some.inj hline)
    cases i with
    | zero => cases habove
    | succ k =>
      have hk : k < b.lines.length := Nat.lt_of_succ_lt (List.getElem?_eq_some_iff.mp h).1
      have hlast : b.line? k = some b.lines[k] := List.getElem?_eq_getElem hk
      rw [take_succ_of_line? hlast, List.getLast?_concat] at habove
      exact ⟨hnew, k, b.lines[k], l, rfl, hlast, Option.some.inj habove, h, hterminator⟩
  · rintro ⟨rfl, k, above, l', rfl, habove, hcarriage, hl', hfeed⟩
    obtain rfl : l = l' := Option.some.inj (h.symm.trans hl')
    rw [take_succ_of_line? habove]
    exact ⟨by rw [List.getLast?_concat, Option.map_some, hcarriage], by rw [hfeed]; rfl⟩

/-- No line is empty between a carriage return and a line feed. -/
theorem not_closesUp_text (h : b.line? i = some l) : ¬b.ClosesUp i l.text := by
  have hlines := Text.areLines_lines b.chars
  rw [← lines, lines_eq_around_line h, Text.areLines_append (List.cons_ne_nil l _)] at hlines
  exact fun hcloses => hlines.2.1 ((joins_iff_closesUp h).mpr hcloses)

theorem lines_withLine (h : b.line? i = some l) (hnew : new.IsUnbroken)
    (hcloses : ¬b.ClosesUp i new) :
    (b.withLine i ⟨new, l.terminator⟩).lines = b.lines.set i ⟨new, l.terminator⟩ := by
  have hold := Text.areLines_lines b.chars
  rw [← lines, lines_eq_around_line h] at hold
  have hset := hold.exchangeAt hnew fun hjoin => hcloses ((joins_iff_closesUp h).mp hjoin)
  rw [← set_eq_around_line h] at hset
  exact hset.lines_flatMap_whole

/-- A line that closes up leaves its terminator to the line above. -/
theorem lines_withLine_of_closesUp (h : b.ClosesUp i new) :
    ∃ l above, b.line? i = some l ∧ b.line? (i - 1) = some above ∧
      (b.withLine i ⟨new, l.terminator⟩).lines =
        b.lines.take (i - 1) ++ ⟨above.text, .both⟩ :: b.lines.drop (i + 1) := by
  obtain ⟨rfl, k, above, l, rfl, habove, hcarriage, hl, hfeed⟩ := h
  refine ⟨l, above, hl, habove, ?_⟩
  have hold := Text.areLines_lines b.chars
  rw [← lines, lines_eq_around_line hl, take_succ_of_line? habove, List.append_assoc] at hold
  have hjoined := hold.join (by rw [hfeed]; decide)
  have hwhole : (b.lines.set (k + 1) ⟨[], l.terminator⟩).flatMap Line.whole =
      (b.lines.take k ++ ⟨above.text, .both⟩ :: b.lines.drop (k + 1 + 1)).flatMap Line.whole := by
    rw [set_eq_around_line hl, take_succ_of_line? habove]
    simp [Line.whole, Terminator.text, hcarriage, hfeed]
  rw [lines, withLine, hwhole]
  exact hjoined.lines_flatMap_whole

/-- An edit of a line leaves the other lines as they are, and brings in no other characters. -/
theorem lines_replaceLine (h : b.line? i = some l) (hnew : new.IsUnbroken)
    (hcloses : ¬b.ClosesUp i new) :
    ∃ edited, b.replaceLine i new = .ok (l.text, edited) ∧
      edited.lines = b.lines.set i ⟨new, l.terminator⟩ ∧
      ∀ c ∈ edited.chars, c ∈ b.chars ∨ c ∈ new :=
  ⟨_, replaceLine_eq h new, lines_withLine h hnew hcloses, fun _ => mem_chars_withLine h⟩

/-- Another text for a line changes this line alone: the old text is handed out, the line ends as
it did, and the other lines are the same. The one exception is a line that becomes empty between
the carriage return of the line above and its own line feed: these two then end the line above
together, and there is a line less. -/
theorem replaceLine_differsInLine_iff {b : Buffer} {i : Nat} (hi : i < b.lineCount) {t : Text}
    (ht : t.IsUnbroken) :
    ∃ old edited, b.lineText i = .ok old ∧ b.replaceLine i t = .ok (old, edited) ∧
      (b.DiffersInLine edited i t ↔ ¬b.ClosesUp i t) ∧
      (b.ClosesUp i t → ∃ above, b.line? (i - 1) = some above ∧
        edited.lines = b.lines.take (i - 1) ++ ⟨above.text, .both⟩ :: b.lines.drop (i + 1)) := by
  by_cases hcloses : b.ClosesUp i t
  · obtain ⟨l, above, hl, habove, hlines⟩ := lines_withLine_of_closesUp hcloses
    refine ⟨_, _, lineText_eq hl, replaceLine_eq hl t, iff_of_false ?_ (not_not_intro hcloses),
      fun _ => ⟨above, habove, hlines⟩⟩
    intro hdiffers
    have hcount := hdiffers.lineCount_eq
    have hpos : 0 < i := by
      obtain ⟨-, k, -, -, rfl, -⟩ := hcloses
      exact Nat.succ_pos k
    rw [lineCount, lineCount, hlines] at hcount
    rw [lineCount] at hi
    simp only [List.length_append, List.length_cons, List.length_take, List.length_drop] at hcount
    omega
  · obtain ⟨l, hl⟩ := exists_line?_iff.mpr hi
    have hdiffers := differsInLine_of_lines hl (lines_withLine hl ht hcloses)
    exact ⟨_, _, lineText_eq hl, replaceLine_eq hl t, iff_of_true hdiffers hcloses,
      fun h => (hcloses h).elim⟩

/-- After the carriage return of the line above, an emptied line that ends in a carriage return and
a line feed of its own stays. -/
theorem replaceLine_differsInLine_both :
    let b := ofText "a\rx\r\n\nb".toList
    1 < b.lineCount ∧ Text.IsUnbroken [] ∧
      ∃ old edited, b.lineText 1 = .ok old ∧ b.replaceLine 1 [] = .ok (old, edited) ∧
        (b.DiffersInLine edited 1 [] ↔ ¬b.ClosesUp 1 []) ∧
        (b.ClosesUp 1 [] → ∃ above, b.line? (1 - 1) = some above ∧
          edited.lines = b.lines.take (1 - 1) ++ ⟨above.text, .both⟩ :: b.lines.drop (1 + 1)) :=
  ⟨by decide, by decide, replaceLine_differsInLine_iff (by decide) (by decide)⟩

/-- Emptied between a carriage return and a line feed, the second line is gone: the first ends in
both, and the third takes its place. -/
theorem replaceLine_closes_up :
    let b := ofText "a\rx\nb".toList
    1 < b.lineCount ∧ Text.IsUnbroken [] ∧
      ∃ edited, b.replaceLine 1 [] = .ok ("x".toList, edited) ∧
        b.lines = [⟨['a'], .carriageReturn⟩, ⟨['x'], .lineFeed⟩, ⟨['b'], .unterminated⟩] ∧
        edited.lines = [⟨['a'], .both⟩, ⟨['b'], .unterminated⟩] ∧
        ¬b.DiffersInLine edited 1 [] := by
  refine ⟨by decide, by decide, ofText "a\r\nb".toList, rfl, by decide, by decide, ?_⟩
  intro hdiffers
  have hcount := hdiffers.lineCount_eq
  revert hcount
  decide

/-- A text put into a line stands between the characters before and after its place in this line,
and changes nothing else: the line ends as it did, and the other lines are the same. -/
theorem insertAt_differsInLine {b : Buffer} {i : Nat} (hi : i < b.lineCount) :
    ∃ old, b.lineText i = .ok old ∧
      ∀ (column : Nat) (t : Text), column ≤ old.length → t.IsUnbroken →
        ∃ edited, b.insertAt ⟨i, column⟩ t = .ok edited ∧
          b.DiffersInLine edited i (old.take column ++ t ++ old.drop column) := by
  obtain ⟨l, hl⟩ := exists_line?_iff.mpr hi
  refine ⟨l.text, lineText_eq hl, fun column t hc ht => ⟨_, insertAt_eq hl hc t, ?_⟩⟩
  have hold := Text.isUnbroken_of_mem_lines (List.mem_of_getElem? hl)
  rw [← List.take_append_drop column l.text, Text.isUnbroken_append] at hold
  have hnew : Text.IsUnbroken (l.text.take column ++ t ++ l.text.drop column) :=
    Text.isUnbroken_append.mpr ⟨Text.isUnbroken_append.mpr ⟨hold.1, ht⟩, hold.2⟩
  refine differsInLine_of_lines hl (lines_withLine hl hnew ?_)
  rintro ⟨hempty, hbetween⟩
  simp only [List.append_eq_nil_iff] at hempty
  have hnil : l.text = [] := by
    rw [← List.take_append_drop column l.text, hempty.1.1, hempty.2]
    rfl
  exact not_closesUp_text hl ⟨hnil, hbetween⟩

/-- At the end of a line, before its carriage return and line feed and after a lone carriage
return. -/
theorem insertAt_differsInLine_afterReturn :
    let b := ofText "a\rb\r\nc".toList
    1 < b.lineCount ∧ ∃ old, b.lineText 1 = .ok old ∧ 1 ≤ old.length ∧
      Text.IsUnbroken "é".toList ∧
        ∃ edited, b.insertAt ⟨1, 1⟩ "é".toList = .ok edited ∧
          b.DiffersInLine edited 1 (old.take 1 ++ "é".toList ++ old.drop 1) := by
  intro b
  have hi : 1 < b.lineCount := by decide
  obtain ⟨old, hold, hinsert⟩ := insertAt_differsInLine hi
  have hc : 1 ≤ old.length := by
    have hb : b.lineText 1 = .ok ['b'] := rfl
    obtain rfl : old = ['b'] := Except.ok.inj (hold.symm.trans hb)
    exact Nat.le_refl 1
  exact ⟨hi, old, hold, hc, by decide, hinsert 1 _ hc (by decide)⟩

end Buffer

end CommentTags
