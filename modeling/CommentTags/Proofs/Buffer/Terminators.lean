import CommentTags.Proofs.Buffer.Breaks

/-!
The lines of a text and its terminators. There is one line more than there are terminators, counted
where they end; every line but the last ends in one of them, and a line less its terminator keeps
all other characters.
-/
namespace CommentTags

namespace Text

/-- A line ends with the character at `i`: a line feed, or a carriage return before no line feed. -/
def EndsLine (t : Text) (i : Nat) : Prop :=
  t[i]? = some '\n' ∨ t[i]? = some '\r' ∧ t[i + 1]? ≠ some '\n'

instance (t : Text) (i : Nat) : Decidable (t.EndsLine i) :=
  inferInstanceAs (Decidable (t[i]? = some '\n' ∨ t[i]? = some '\r' ∧ t[i + 1]? ≠ some '\n'))

/-- A carriage return and the line feed after it are counted once. -/
def terminatorCount (t : Text) : Nat :=
  (List.range t.length).countP fun i => t.EndsLine i

/-- The text less the terminator at its end, if one stands there. -/
def withoutTerminator (t : Text) : Text :=
  ([['\r', '\n'], ['\n'], ['\r']].findSome? fun s => s.isSuffixOf? t).getD t

/-- The text less all line feeds and carriage returns. -/
def withoutBreaks (t : Text) : Text := t.filter fun c => c ≠ '\n' ∧ c ≠ '\r'

variable {t suffix : Text} {l : Line} {ls : List Line}

theorem terminatorCount_cons (c : Char) (t : Text) :
    terminatorCount (c :: t) =
      terminatorCount t + if c = '\n' ∨ c = '\r' ∧ t.head? ≠ some '\n' then 1 else 0 := by
  have hfirst : EndsLine (c :: t) 0 ↔ c = '\n' ∨ c = '\r' ∧ t.head? ≠ some '\n' := by
    simp [EndsLine, List.head?_eq_getElem?]
  have hrest : ∀ i, EndsLine (c :: t) (i + 1) ↔ EndsLine t i := fun i => Iff.rfl
  rw [terminatorCount, List.length_cons, List.range_succ_eq_map, List.countP_cons, List.countP_map]
  simp only [Function.comp_def, Nat.succ_eq_add_one, hrest, hfirst, decide_eq_true_eq]
  rfl

theorem terminatorCount_cons_of_ne {c : Char} (hn : c ≠ '\n') (hr : c ≠ '\r') (t : Text) :
    terminatorCount (c :: t) = terminatorCount t := by
  rw [terminatorCount_cons, if_neg (not_or.mpr ⟨hn, fun h => hr h.1⟩)]
  rfl

theorem terminatorCount_append_of_isUnbroken (ht : t.IsUnbroken) (u : Text) :
    (t ++ u).terminatorCount = u.terminatorCount := by
  induction t with
  | nil => rfl
  | cons c t ih =>
    obtain ⟨⟨hn, hr⟩, ht⟩ := isUnbroken_cons.mp ht
    rw [List.cons_append, terminatorCount_cons_of_ne hn hr, ih ht]

/-- A text has one line more than it has terminators. -/
theorem length_lines (t : Text) : t.lines.length = t.terminatorCount + 1 := by
  induction t using lines.induct with
  | case1 => rfl
  | case2 t ih => rw [lines, List.length_cons, ih, terminatorCount_cons, if_pos (.inl rfl)]
  | case3 t ih =>
    have hreturn : ¬('\r' = '\n' ∨ '\r' = '\r' ∧ List.head? ('\n' :: t) ≠ some '\n') := by simp
    rw [lines, List.length_cons, ih, terminatorCount_cons, terminatorCount_cons, if_neg hreturn,
      if_pos (.inl rfl)]
  | case4 t ht ih =>
    have hhead : t.head? ≠ some '\n' := by
      intro hhead
      obtain ⟨rest, hrest⟩ := List.head?_eq_some_iff.mp hhead
      exact ht rest hrest
    rw [lines_carriageReturn hhead, List.length_cons, ih, terminatorCount_cons,
      if_pos (.inr ⟨rfl, hhead⟩)]
  | case5 c t _ _ _ hnone _ => exact (lines_ne_nil t hnone).elim
  | case6 c t hn _ hr l ls hls ih =>
    rw [hls, List.length_cons] at ih
    rw [lines.eq_5 c t hn (fun _ h => (hr h).elim) hr, hls, List.length_cons, ih,
      terminatorCount_cons_of_ne hn hr]

/-- The last line alone is unterminated. -/
theorem AreLines.unterminated_iff (h : AreLines ls) {i : Nat} (hi : ls[i]? = some l) :
    l.terminator = .unterminated ↔ i + 1 = ls.length := by
  induction h generalizing i with
  | last _ =>
    obtain ⟨hlt, rfl⟩ := List.getElem?_eq_some_iff.mp hi
    obtain rfl : i = 0 := Nat.lt_one_iff.mp hlt
    exact iff_of_true rfl rfl
  | @more first rest _ hterminator _ hrest ih =>
    cases i with
    | zero =>
      obtain rfl : first = l := Option.some.inj hi
      have hne : rest ≠ [] := by
        rintro rfl
        cases hrest
      have hlength : 0 + 1 ≠ (first :: rest).length := by
        simpa [eq_comm] using hne
      exact iff_of_false hterminator hlength
    | succ i => rw [ih hi, List.length_cons, Nat.add_right_cancel_iff]

theorem isSuffixOf?_append (t suffix : Text) : suffix.isSuffixOf? (t ++ suffix) = some t :=
  List.isSuffixOf?_eq_some_iff_append_eq.mpr rfl

theorem isSuffixOf?_eq_none {c : Char} (hc : c ∈ suffix) (ht : c ∉ t) :
    suffix.isSuffixOf? t = none := by
  rw [Option.eq_none_iff_forall_ne_some]
  rintro rest hrest
  rw [← List.isSuffixOf?_eq_some_iff_append_eq.mp hrest] at ht
  exact ht (List.mem_append_right rest hc)

/-- What is taken off a line is its terminator, and no more. -/
theorem withoutTerminator_whole (h : l.text.IsUnbroken) : l.whole.withoutTerminator = l.text := by
  obtain ⟨text, terminator⟩ := l
  obtain ⟨hn, hr⟩ : '\n' ∉ text ∧ '\r' ∉ text := h
  cases terminator with
  | unterminated =>
    have hboth : List.isSuffixOf? ['\r', '\n'] text = none :=
      isSuffixOf?_eq_none (c := '\n') (by simp) hn
    have hfeed : List.isSuffixOf? ['\n'] text = none := isSuffixOf?_eq_none (by simp) hn
    have hreturn : List.isSuffixOf? ['\r'] text = none := isSuffixOf?_eq_none (by simp) hr
    simp [withoutTerminator, Line.whole, Terminator.text, hboth, hfeed, hreturn]
  | lineFeed =>
    have hboth : List.isSuffixOf? ['\r', '\n'] (text ++ ['\n']) = none :=
      isSuffixOf?_eq_none (c := '\r') (by simp) (by simpa using hr)
    simp [withoutTerminator, Line.whole, Terminator.text, hboth, isSuffixOf?_append]
  | carriageReturn =>
    have hnone : ∀ {suffix : Text}, '\n' ∈ suffix →
        suffix.isSuffixOf? (text ++ ['\r']) = none :=
      fun hmem => isSuffixOf?_eq_none hmem (by simpa using hn)
    simp [withoutTerminator, Line.whole, Terminator.text, hnone, isSuffixOf?_append]
  | both =>
    have hboth := isSuffixOf?_append text ['\r', '\n']
    simp [withoutTerminator, Line.whole, Terminator.text, hboth]

theorem terminatorCount_whole (h : l.text.IsUnbroken) :
    l.whole.terminatorCount = if l.terminator = .unterminated then 0 else 1 := by
  rw [Line.whole, terminatorCount_append_of_isUnbroken h]
  cases l.terminator <;> rfl

theorem withoutBreaks_whole (h : l.text.IsUnbroken) : l.whole.withoutBreaks = l.text := by
  have htext : l.text.withoutBreaks = l.text := by
    rw [withoutBreaks, List.filter_eq_self]
    intro c hc
    have hne : c ≠ '\n' ∧ c ≠ '\r' := ⟨fun heq => h.1 (heq ▸ hc), fun heq => h.2 (heq ▸ hc)⟩
    exact decide_eq_true hne
  have hterminator : l.terminator.text.withoutBreaks = [] := by cases l.terminator <;> rfl
  calc l.whole.withoutBreaks
      = l.text.withoutBreaks ++ l.terminator.text.withoutBreaks := List.filter_append _ _
    _ = l.text := by rw [htext, hterminator, List.append_nil]

theorem flatMap_text_lines (t : Text) : t.lines.flatMap Line.text = t.withoutBreaks := by
  calc t.lines.flatMap Line.text
      = t.lines.flatMap fun l => l.whole.withoutBreaks := by
        refine List.flatMap_congr fun l hl => ?_
        exact (withoutBreaks_whole (isUnbroken_of_mem_lines hl)).symm
    _ = withoutBreaks (t.lines.flatMap Line.whole) := List.filter_flatMap.symm
    _ = t.withoutBreaks := by rw [flatMap_whole_lines]

end Text

namespace Buffer

variable {b : Buffer} {i : Nat} {l : Line}

theorem line_eq_ok_iff : b.line i = .ok l ↔ b.line? i = some l := by
  rw [line]
  cases b.line? i <;> simp

theorem mapM_line (b : Buffer) : (List.range b.lineCount).mapM b.line = .ok b.lines := by
  have hfirst : ∀ n ≤ b.lineCount, (List.range n).mapM b.line = .ok (b.lines.take n) := by
    intro n hn
    induction n with
    | zero => rfl
    | succ n ih =>
      obtain ⟨l, hl⟩ := exists_line?_iff.mpr hn
      have hline : b.line n = .ok l := by rw [line, hl]
      rw [List.range_succ, List.mapM_append, ih (Nat.le_of_succ_le hn), take_succ_of_line? hl]
      simp [hline]
      rfl
  rw [hfirst b.lineCount (Nat.le_refl _), lineCount, List.take_length]

/-- The lines of a text and its terminators. Put together, the lines are the text; there is one more
of them than there are terminators. Each line but the last has one terminator, at its end, and the
last has none; less its terminator a line has no line feed and no carriage return, and all other
characters of the text are in its lines. -/
theorem lines_partition (b : Buffer) :
    (List.range b.lineCount).mapM b.line = .ok b.lines ∧
    b.lines.flatMap Line.whole = b.chars ∧
    b.lineCount = b.chars.terminatorCount + 1 ∧
    b.lines.flatMap Line.text = b.chars.withoutBreaks ∧
    ∀ i l, b.line i = .ok l →
      l.whole = l.whole.withoutTerminator ++ l.terminator.text ∧
      l.whole.terminatorCount = (if i + 1 = b.lineCount then 0 else 1) ∧
      (l.terminator = .unterminated ↔ i + 1 = b.lineCount) ∧
      b.lineText i = .ok l.whole.withoutTerminator ∧
      '\n' ∉ l.whole.withoutTerminator ∧ '\r' ∉ l.whole.withoutTerminator := by
  refine ⟨b.mapM_line, Text.flatMap_whole_lines b.chars, Text.length_lines b.chars,
    Text.flatMap_text_lines b.chars, fun i l h => ?_⟩
  have hline : b.line? i = some l := line_eq_ok_iff.mp h
  have hunbroken : l.text.IsUnbroken :=
    Text.isUnbroken_of_mem_lines (List.mem_of_getElem? hline)
  have hlast : l.terminator = .unterminated ↔ i + 1 = b.lineCount :=
    (Text.areLines_lines b.chars).unterminated_iff hline
  rw [Text.withoutTerminator_whole hunbroken]
  refine ⟨rfl, ?_, hlast, lineText_eq hline, hunbroken⟩
  rw [Text.terminatorCount_whole hunbroken]
  simp only [hlast]

/-- Of three carriage returns in a row the last belongs to the line feed after it; a form feed and
a separator of lines end no line. -/
theorem lines_partition_returns :
    let b := Buffer.ofText "a\r\r\r\n\x0c\u2028\n\r".toList
    b.lineCount = 6 ∧ b.line 2 = .ok ⟨[], .both⟩ ∧
      Text.terminatorCount ['\r', '\n'] = 1 ∧ b.lineText 2 = .ok [] := by
  intro b
  have hline : b.line 2 = .ok ⟨[], .both⟩ := rfl
  obtain ⟨-, -, hcount, -, hlines⟩ := lines_partition b
  obtain ⟨-, hone, -, htext, -⟩ := hlines 2 _ hline
  exact ⟨hcount, hline, hone, htext⟩

end Buffer

end CommentTags
