import CommentTags.Proofs.Scanner.Lines
import CommentTags.Proofs.Scanner.Run

/-!
The order inside the entries of a cache. All tags of an entry belong to its document, and each
starts after the one before it; no action of a scanner changes that.
-/
namespace CommentTags

theorem FoundTag.start_line_ofMatch (id : DocumentId) (i : Nat) (line : Text) (m : TagMatch) :
    (ofMatch id i line m).range.start.line = i := by
  rw [ofMatch, Range.onLine, Range.between]
  split <;> rfl

theorem FoundTag.stop_line_ofMatch (id : DocumentId) (i : Nat) (line : Text) (m : TagMatch) :
    (ofMatch id i line m).range.stop.line = i := by
  rw [ofMatch, Range.onLine, Range.between]
  split <;> rfl

theorem TagSet.start_line_of_mem_findAll {tags : TagSet} {id : DocumentId} {m : Markers}
    {state : BlockState} {i : Nat} {lines : List Text} {t : FoundTag}
    (h : t ∈ tags.findAll id m state i lines) : t.range.start.line = t.line := by
  obtain ⟨k, line, c, found, -, -, rfl⟩ := exists_of_mem_findAll h
  exact FoundTag.start_line_ofMatch id (i + k) line found

theorem TagSet.stop_line_of_mem_findAll {tags : TagSet} {id : DocumentId} {m : Markers}
    {state : BlockState} {i : Nat} {lines : List Text} {t : FoundTag}
    (h : t ∈ tags.findAll id m state i lines) : t.range.stop.line = t.line := by
  obtain ⟨k, line, c, found, -, -, rfl⟩ := exists_of_mem_findAll h
  exact FoundTag.stop_line_ofMatch id (i + k) line found

namespace Source

/-- Of `count` lines from `i` on, those before the first that is missing. -/
def linesFrom (d : Source) (i : Nat) : (count : Nat) → List Text
  | 0 => []
  | count + 1 =>
    match d.lineText i with
    | none => []
    | some t => t :: d.linesFrom (i + 1) count

variable (d : Source) (languages : Languages) (tags : TagSet)

/-- A search finds what is on the lines before the first that is missing. -/
theorem search_fst (m : Markers) (state : BlockState) (i count : Nat) :
    (d.search tags m state i count).1 = tags.findAll d.id m state i (d.linesFrom i count) := by
  induction count generalizing state i with
  | zero => rfl
  | succ count ih =>
    rw [search, linesFrom]
    cases d.lineText i with
    | none => rfl
    | some t => rw [TagSet.findAll, ← ih]

theorem found_eq_findAll :
    d.found languages tags =
      if d.isScannable then
        ((languages.get? d.language).map fun m =>
          tags.findAll d.id m .outside 0 (d.linesFrom 0 d.lineCount)).getD []
      else [] := by
  rw [found]
  simp only [search_fst]

/-- What is found in a document is found from its top to its bottom. -/
theorem pairwise_found :
    (d.found languages tags).Pairwise fun a b => a.range.start < b.range.start := by
  rw [found]
  split
  case isFalse => exact List.Pairwise.nil
  case isTrue =>
    cases languages.get? d.language with
    | none => exact List.Pairwise.nil
    | some m =>
      rw [Option.map_some, Option.getD_some, search_fst]
      apply (tags.pairwise_findAll d.id m .outside 0 _).imp_of_mem
      intro a b ha hb hlt
      rw [Position.lt_def, TagSet.start_line_of_mem_findAll ha,
        TagSet.start_line_of_mem_findAll hb]
      exact .inl hlt

end Source

/-- The tags of each entry belong to its document, and each starts after the one before it. -/
def Cache.IsOrdered (c : Cache) : Prop :=
  ∀ e ∈ c.entries.entries, (∀ t ∈ e.2, t.document = e.1) ∧
    e.2.Pairwise fun a b => a.range.start < b.range.start

namespace Scanner

variable {s : Scanner}

theorem isOrdered_empty : Cache.empty.IsOrdered := fun _ he => nomatch he

theorem isOrdered_erase {c : Cache} (h : c.IsOrdered) (id : DocumentId) : (c.erase id).IsOrdered :=
  fun e he => h e ((c.entries.others_sublist id).subset he)

theorem isOrdered_scan (h : s.cache.IsOrdered) (d : Source) :
    (s.scan d).scanner.cache.IsOrdered := by
  rw [scan_eq]
  split
  case isFalse => exact h
  case isTrue =>
    intro e he
    rcases List.mem_append.mp he with he | he
    · exact isOrdered_erase h d.id e he
    · rw [List.mem_singleton.mp he]
      exact ⟨fun t => d.found_document s.languages s.tags, d.pairwise_found s.languages s.tags⟩

theorem isOrdered_take (h : s.cache.IsOrdered) (a : Step) :
    (s.take a).scanner.cache.IsOrdered := by
  cases a with
  | configure tags => exact h
  | scan d => exact isOrdered_scan h d
  | invalidate gone =>
    cases gone with
    | none => exact isOrdered_empty
    | some id => exact isOrdered_erase h id

theorem isOrdered_after (h : s.cache.IsOrdered) (steps : List Step) :
    (s.after steps).cache.IsOrdered := by
  induction steps generalizing s with
  | nil => exact h
  | cons a rest ih => exact ih (isOrdered_take h a)

theorem isOrdered_run (h : s.cache.IsOrdered) (actions : List Action) :
    (s.run actions).scanner.cache.IsOrdered := by
  rw [run_scanner]
  exact isOrdered_after h _

end Scanner

end CommentTags
