import CommentTags.Proofs.Scanner.Scan

/-!
What a scan finds, line by line. All that one line hands on to the next is the state of block
comments, and nothing but the numbers of lines depends on where they stand.
-/
namespace CommentTags

/-- The state of block comments after these lines. -/
def Markers.stateAfter (m : Markers) (state : BlockState) (lines : List Text) : BlockState :=
  lines.foldl (fun state line => (m.locate state line).2) state

/-- The tags on lines that follow each other, the first of which has the number `i`. -/
def TagSet.findAll (tags : TagSet) (id : DocumentId) (m : Markers) (state : BlockState) (i : Nat) :
    List Text → List FoundTag
  | [] => []
  | line :: rest =>
    let found := m.locate state line
    ((found.1.bind (tags.find? line)).map (FoundTag.ofMatch id i line)).toList ++
      tags.findAll id m found.2 (i + 1) rest

/-- The same columns, `n` lines further down. -/
def Range.down (n : Nat) (r : Range) : Range where
  start := ⟨r.start.line + n, r.start.column⟩
  stop := ⟨r.stop.line + n, r.stop.column⟩
  start_le_stop := by
    have h := r.start_le_stop
    rw [Position.le_def] at h ⊢
    dsimp only
    omega

namespace FoundTag

/-- The same tag with `n` more lines before it. -/
def down (n : Nat) (t : FoundTag) : FoundTag :=
  { t with range := t.range.down n, line := t.line + n }

theorem range_ofMatch {id : DocumentId} {i : Nat} {line : Text} {m : TagMatch}
    (h : m.startColumn ≤ m.stopColumn) :
    (ofMatch id i line m).range = ⟨⟨i, m.startColumn⟩, ⟨i, m.stopColumn⟩, .inr ⟨rfl, h⟩⟩ := by
  rw [ofMatch, Range.onLine, Range.between, dif_pos]

theorem down_ofMatch (n : Nat) (id : DocumentId) (i : Nat) (line : Text) {m : TagMatch}
    (h : m.startColumn ≤ m.stopColumn) :
    (ofMatch id i line m).down n = ofMatch id (i + n) line m := by
  have hrange : (ofMatch id i line m).range.down n = (ofMatch id (i + n) line m).range := by
    rw [range_ofMatch h, range_ofMatch h]
    rfl
  rw [down, hrange]
  rfl

end FoundTag

theorem Text.columnAt_le (t : Text) (n : Nat) : t.columnAt n ≤ t.length := by
  induction t generalizing n with
  | nil => exact Nat.le_refl 0
  | cons c t ih =>
    rw [columnAt]
    split
    · exact Nat.zero_le _
    · exact Nat.succ_le_succ (ih _)

namespace TagSet

variable {tags : TagSet} {id : DocumentId} {m : Markers} {state : BlockState} {i : Nat}
  {lines : List Text} {t : FoundTag}

/-- A match lies on its line and does not end before it begins. -/
theorem find?_columns {line : Text} {c : Comment} {found : TagMatch}
    (h : tags.find? line c = some found) :
    found.startColumn ≤ found.stopColumn ∧ found.stopColumn ≤ line.length := by
  rw [find?] at h
  split at h
  · obtain ⟨f, -, hf⟩ := List.exists_of_findSome?_eq_some h
    obtain ⟨split, -, rfl⟩ := Option.map_eq_some_iff.mp hf
    exact ⟨Nat.le_min.mpr ⟨Nat.le_add_right _ _, Text.columnAt_le _ _⟩, Nat.min_le_right _ _⟩
  · cases h

theorem findAll_append (state : BlockState) (i : Nat) (lines more : List Text) :
    tags.findAll id m state i (lines ++ more) =
      tags.findAll id m state i lines ++
        tags.findAll id m (m.stateAfter state lines) (i + lines.length) more := by
  induction lines generalizing state i with
  | nil => rfl
  | cons line rest ih =>
    rw [List.cons_append, findAll, findAll, ih, List.append_assoc, List.length_cons,
      Nat.add_right_comm, Nat.add_assoc]
    rfl

/-- Each tag was matched on one of the lines, and carries its number. -/
theorem exists_of_mem_findAll (h : t ∈ tags.findAll id m state i lines) :
    ∃ k line c found, lines[k]? = some line ∧ tags.find? line c = some found ∧
      t = FoundTag.ofMatch id (i + k) line found := by
  induction lines generalizing state i with
  | nil => cases h
  | cons line rest ih =>
    rw [findAll, List.mem_append, Option.mem_toList] at h
    rcases h with h | h
    · obtain ⟨found, hfound, rfl⟩ := Option.map_eq_some_iff.mp h
      obtain ⟨c, -, hc⟩ := Option.bind_eq_some_iff.mp hfound
      exact ⟨0, line, c, found, rfl, hc, rfl⟩
    · obtain ⟨k, line, c, found, hline, hfound, rfl⟩ := ih h
      refine ⟨k + 1, line, c, found, hline, hfound, ?_⟩
      rw [Nat.add_right_comm, Nat.add_assoc]

theorem le_line_of_mem_findAll (h : t ∈ tags.findAll id m state i lines) : i ≤ t.line := by
  obtain ⟨k, line, c, found, -, -, rfl⟩ := exists_of_mem_findAll h
  exact Nat.le_add_right i k

/-- At most one tag is found on a line, and the lines come in their order. -/
theorem pairwise_findAll (tags : TagSet) (id : DocumentId) (m : Markers) (state : BlockState)
    (i : Nat) (lines : List Text) :
    (tags.findAll id m state i lines).Pairwise fun a b => a.line < b.line := by
  induction lines generalizing state i with
  | nil => exact List.Pairwise.nil
  | cons line rest ih =>
    rw [findAll, List.pairwise_append]
    refine ⟨?_, ih _ _, ?_⟩
    · cases ((m.locate state line).1.bind (tags.find? line)).map (FoundTag.ofMatch id i line) with
      | none => exact List.Pairwise.nil
      | some a => exact List.pairwise_singleton _ a
    · intro a ha b hb
      obtain ⟨found, -, rfl⟩ := Option.map_eq_some_iff.mp (Option.mem_toList.mp ha)
      exact le_line_of_mem_findAll hb

theorem findAll_down (n : Nat) (state : BlockState) (i : Nat) (lines : List Text) :
    tags.findAll id m state (i + n) lines =
      (tags.findAll id m state i lines).map (FoundTag.down n) := by
  induction lines generalizing state i with
  | nil => rfl
  | cons line rest ih =>
    have hfirst : ((m.locate state line).1.bind (tags.find? line)).map
          (FoundTag.ofMatch id (i + n) line) =
        (((m.locate state line).1.bind (tags.find? line)).map
          (FoundTag.ofMatch id i line)).map (FoundTag.down n) := by
      rw [Option.map_map]
      cases hc : (m.locate state line).1.bind (tags.find? line) with
      | none => rfl
      | some found =>
        obtain ⟨c, -, hfound⟩ := Option.bind_eq_some_iff.mp hc
        exact congrArg some (FoundTag.down_ofMatch n id i line (find?_columns hfound).1).symm
    rw [findAll, findAll, List.map_append, hfirst, Option.toList_map, Nat.add_right_comm, ih]

end TagSet

namespace Source

variable {d : Source}

theorem search_eq_findAll (tags : TagSet) (m : Markers) (state : BlockState) (i : Nat)
    {lines : List Text} (h : ∀ k, k < lines.length → d.lineText (i + k) = lines[k]?) :
    d.search tags m state i lines.length = (tags.findAll d.id m state i lines, true) := by
  induction lines generalizing state i with
  | nil => rfl
  | cons line rest ih =>
    have hline : d.lineText i = some line := h 0 (Nat.zero_lt_succ _)
    have hrest : ∀ k, k < rest.length → d.lineText (i + 1 + k) = rest[k]? := by
      intro k hk
      rw [Nat.add_assoc, Nat.add_comm 1 k]
      exact h (k + 1) (Nat.succ_lt_succ hk)
    rw [List.length_cons, search]
    simp only [hline, ih _ (i + 1) hrest]
    rfl

end Source

theorem Document.isClosed_of_isScannable {d : Document} (h : d.isScannable = true) :
    d.isClosed = false := by
  rw [isScannable] at h
  simp only [Bool.and_eq_true, Bool.not_eq_true'] at h
  exact h.1.1.1

/-- All lines of an open document are there, so a scan of it completes if it is scannable. -/
theorem Document.completes_source {d : Document} (h : d.isClosed = false)
    (languages : Languages) : d.source.completes languages = d.isScannable := by
  have hlines : ((List.range d.source.lineCount).all fun i =>
      (d.source.lineText i).isSome) = true := by
    rw [List.all_eq_true]
    intro i hi
    simpa [source, h] using hi
  rw [Source.completes, hlines]
  cases languages.get? d.source.language <;> simp [source]

/-- The texts of the lines of a document. -/
def Document.lineTexts (d : Document) : List Text := d.buffer.lines.map Line.text

/-- All lines of a document that can be scanned are there. -/
theorem Document.found_source (d : Document) (languages : Languages) (tags : TagSet) :
    d.source.found languages tags =
      if d.isScannable then
        ((languages.get? d.language).map fun m =>
          tags.findAll d.id m .outside 0 d.lineTexts).getD []
      else [] := by
  rw [Source.found]
  change (if d.isScannable then _ else _) = _
  by_cases hs : d.isScannable = true
  · have hopen : d.isClosed = false := isClosed_of_isScannable hs
    have hlines : ∀ k, k < d.lineTexts.length → d.source.lineText (0 + k) = d.lineTexts[k]? := by
      intro k hk
      simp [source, lineTexts, hopen]
    have hcount : d.source.lineCount = d.lineTexts.length := by
      simp [source, lineTexts]
    rw [if_pos hs, if_pos hs, hcount]
    simp only [Source.search_eq_findAll tags _ .outside 0 hlines]
    rfl
  · rw [if_neg hs, if_neg hs]

end CommentTags
