import CommentTags.Proofs.Buffer.Lines

/-!
Where a text is broken into lines. The lists of lines that texts have are those in which the last
line alone is unterminated, no line ends within the text of another, and no lone carriage return
stands right before a line feed. Such lines, put together, are broken up at the same places again.
-/
namespace CommentTags.Text

/-- No line ends in the text. -/
def IsUnbroken (t : Text) : Prop := '\n' ∉ t ∧ '\r' ∉ t

instance (t : Text) : Decidable t.IsUnbroken :=
  inferInstanceAs (Decidable ('\n' ∉ t ∧ '\r' ∉ t))

theorem isUnbroken_nil : IsUnbroken [] := ⟨List.not_mem_nil, List.not_mem_nil⟩

theorem isUnbroken_cons {c : Char} {t : Text} :
    IsUnbroken (c :: t) ↔ (c ≠ '\n' ∧ c ≠ '\r') ∧ IsUnbroken t := by
  simp only [IsUnbroken, List.mem_cons, not_or, ne_comm (a := c)]
  exact and_and_and_comm

variable {t u new : Text} {l : Line} {ls before rest after : List Line}

theorem isUnbroken_append : (t ++ u).IsUnbroken ↔ t.IsUnbroken ∧ u.IsUnbroken := by
  simp only [IsUnbroken, List.mem_append, not_or]
  exact and_and_and_comm

/-- A text that ends no line stands in front of the first line of what follows it. -/
theorem lines_append_of_isUnbroken (ht : t.IsUnbroken) (hu : u.lines = l :: ls) :
    (t ++ u).lines = ⟨t ++ l.text, l.terminator⟩ :: ls := by
  induction t with
  | nil => exact hu
  | cons c t ih =>
    obtain ⟨⟨hn, hr⟩, ht⟩ := isUnbroken_cons.mp ht
    obtain ⟨first, rest, hrest, hlines⟩ := lines_cons hn hr (t ++ u)
    rw [ih ht] at hrest
    obtain ⟨rfl, rfl⟩ := List.cons.inj hrest
    exact hlines

/-- A lone carriage return ends the lines before, and the lines after begin with a line feed: put
together, the two end one line. -/
def Joins (before after : List Line) : Prop :=
  before.getLast?.map Line.terminator = some .carriageReturn ∧ after.head? = some ⟨[], .lineFeed⟩

theorem not_joins_of_ne (h : l.terminator ≠ .carriageReturn) : ¬Joins [l] ls :=
  fun hjoin => h (Option.some.inj hjoin.1)

/-- The lists of lines that texts are broken into. -/
inductive AreLines : List Line → Prop
  | last {t : Text} : t.IsUnbroken → AreLines [⟨t, .unterminated⟩]
  | more {l : Line} {ls : List Line} : l.text.IsUnbroken → l.terminator ≠ .unterminated →
      ¬Joins [l] ls → AreLines ls → AreLines (l :: ls)

theorem areLines_cons (hne : ls ≠ []) :
    AreLines (l :: ls) ↔
      l.text.IsUnbroken ∧ l.terminator ≠ .unterminated ∧ ¬Joins [l] ls ∧ AreLines ls := by
  constructor
  · intro h
    cases h with
    | last _ => exact (hne rfl).elim
    | more hl hterminator hjoin hls => exact ⟨hl, hterminator, hjoin, hls⟩
  · rintro ⟨hl, hterminator, hjoin, hls⟩
    exact .more hl hterminator hjoin hls

theorem AreLines.isUnbroken (h : AreLines ls) (hl : l ∈ ls) : l.text.IsUnbroken := by
  induction h with
  | last ht =>
    rw [List.mem_singleton.mp hl]
    exact ht
  | more hfirst _ _ _ ih =>
    rcases List.mem_cons.mp hl with rfl | hl
    · exact hfirst
    · exact ih hl

theorem AreLines.exchange (hnew : new.IsUnbroken) (h : AreLines (l :: ls)) :
    AreLines (⟨new, l.terminator⟩ :: ls) := by
  cases h with
  | last _ => exact .last hnew
  | more _ hterminator hjoin hls => exact .more hnew hterminator hjoin hls

theorem head?_flatMap_whole_of_lineFeed (h : ls.head? = some ⟨[], .lineFeed⟩) :
    (ls.flatMap Line.whole).head? = some '\n' := by
  obtain ⟨rest, rfl⟩ := List.head?_eq_some_iff.mp h
  rfl

theorem areLines_lines (t : Text) : AreLines t.lines := by
  induction t using lines.induct with
  | case1 => exact .last isUnbroken_nil
  | case2 t ih => exact .more isUnbroken_nil (by decide) (not_joins_of_ne (by decide)) ih
  | case3 t ih => exact .more isUnbroken_nil (by decide) (not_joins_of_ne (by decide)) ih
  | case4 t ht ih =>
    rw [lines.eq_4 t ht]
    refine .more isUnbroken_nil (by decide) (fun hjoin => ?_) ih
    have hhead := head?_flatMap_whole_of_lineFeed hjoin.2
    rw [flatMap_whole_lines] at hhead
    obtain ⟨rest, hrest⟩ := List.head?_eq_some_iff.mp hhead
    exact ht rest hrest
  | case5 _ t _ _ _ hnone _ => exact (lines_ne_nil t hnone).elim
  | case6 c t hn hrn hr l ls hls ih =>
    rw [lines.eq_5 c t hn hrn hr, hls]
    rw [hls] at ih
    exact ih.exchange (isUnbroken_cons.mpr ⟨⟨hn, hr⟩, ih.isUnbroken List.mem_cons_self⟩)

theorem isUnbroken_of_mem_lines (h : l ∈ t.lines) : l.text.IsUnbroken :=
  (areLines_lines t).isUnbroken h

theorem AreLines.head?_flatMap_whole (h : AreLines ls) :
    (ls.flatMap Line.whole).head? = some '\n' ↔ ls.head? = some ⟨[], .lineFeed⟩ := by
  refine ⟨fun hhead => ?_, head?_flatMap_whole_of_lineFeed⟩
  have hunbroken : ∀ {c : Char} {t : Text}, IsUnbroken (c :: t) → some c ≠ some '\n' :=
    fun ht hc => (isUnbroken_cons.mp ht).1.1 (Option.some.inj hc)
  cases h with
  | @last t ht =>
    cases t with
    | nil => cases hhead
    | cons c t => exact (hunbroken ht hhead).elim
  | @more l ls hl hterminator _ _ =>
    obtain ⟨text, terminator⟩ := l
    cases text with
    | nil =>
      cases terminator with
      | unterminated => exact (hterminator rfl).elim
      | lineFeed => rfl
      | carriageReturn => cases hhead
      | both => cases hhead
    | cons c text => exact (hunbroken hl hhead).elim

/-- Lines put together are broken up at the same places again. -/
theorem AreLines.lines_flatMap_whole (h : AreLines ls) : lines (ls.flatMap Line.whole) = ls := by
  induction h with
  | last ht =>
    have hlines := lines_append_of_isUnbroken (u := []) ht rfl
    rw [List.append_nil] at hlines
    simpa [Line.whole, Terminator.text] using hlines
  | @more l ls hl hterminator hjoin hls ih =>
    have hbreak : lines (l.terminator.text ++ ls.flatMap Line.whole) =
        ⟨[], l.terminator⟩ :: ls := by
      obtain ⟨text, terminator⟩ := l
      cases terminator with
      | unterminated => exact (hterminator rfl).elim
      | lineFeed => exact congrArg (_ :: ·) ih
      | both => exact congrArg (_ :: ·) ih
      | carriageReturn =>
        have hhead : (ls.flatMap Line.whole).head? ≠ some '\n' :=
          fun hhead => hjoin ⟨rfl, hls.head?_flatMap_whole.mp hhead⟩
        have hlines := lines_carriageReturn hhead
        rw [ih] at hlines
        exact hlines
    have hlines := lines_append_of_isUnbroken hl hbreak
    rw [List.append_nil] at hlines
    rw [List.flatMap_cons, Line.whole, List.append_assoc]
    exact hlines

/-- Lines and further lines are those of one text when the former can stand before an empty last
line and the latter by themselves, and the two do not join. -/
theorem areLines_append (hrest : rest ≠ []) :
    AreLines (before ++ rest) ↔
      AreLines (before ++ [⟨[], .unterminated⟩]) ∧ ¬Joins before rest ∧ AreLines rest := by
  have hend : AreLines [⟨[], .unterminated⟩] := .last isUnbroken_nil
  have hnil : ¬Joins [] rest := fun hjoin => nomatch hjoin.1
  induction before with
  | nil => exact ⟨fun h => ⟨hend, hnil, h⟩, fun h => h.2.2⟩
  | cons first before ih =>
    have hne : ∀ {more : List Line}, more ≠ [] → before ++ more ≠ [] :=
      fun hmore => List.append_ne_nil_of_right_ne_nil before hmore
    rw [List.cons_append, List.cons_append, areLines_cons (hne hrest),
      areLines_cons (hne (List.cons_ne_nil _ []))]
    simp only [ih]
    cases before with
    | nil =>
      have happart : ¬Joins [first] [⟨[], .unterminated⟩] := fun hjoin => nomatch hjoin.2
      simp only [List.nil_append]
      tauto
    | cons second before =>
      have hjoin : Joins (first :: second :: before) rest ↔ Joins (second :: before) rest := Iff.rfl
      have hfirst : Joins [first] (second :: before ++ rest) ↔
          Joins [first] (second :: before ++ [⟨[], .unterminated⟩]) := Iff.rfl
      rw [hjoin, hfirst]
      tauto

end CommentTags.Text
