import CommentTags.Proofs.Buffer.Lines
import CommentTags.Proofs.Scanner.Lines

/-!
Where found tags lie. Each is a stretch of one line of the document that was scanned, and the
document gives back that stretch when it is deleted.
-/
namespace CommentTags

namespace Document

variable {d : Document} {languages : Languages} {tags : TagSet} {t : FoundTag}

theorem lineText?_eq {l : Line} {i : Nat} (hopen : d.isClosed = false)
    (h : d.buffer.line? i = some l) : d.lineText? i = some l.text := by
  rw [lineText?, hopen, h]
  rfl

theorem delete_columns {i : Nat} {l : Line} (h : d.buffer.line? i = some l) {start stop : Nat}
    (hle : start ≤ stop) (hstop : stop ≤ l.text.length) :
    ∃ rest, d.delete ⟨i, start⟩ ⟨i, stop⟩ = .ok ((l.text.drop start).take (stop - start), rest) := by
  obtain ⟨rest, hdelete⟩ := Buffer.delete_columns h hle hstop
  refine ⟨d.withBuffer rest, ?_⟩
  rw [delete, Buffer.index_of_le h (Nat.le_trans hle hstop), Buffer.index_of_le h hstop]
  change (d.buffer.delete _ _ >>= _) = _
  rw [hdelete]
  rfl

/-- A found tag was matched on a line of the document. -/
theorem exists_line_of_mem_found (h : t ∈ d.source.found languages tags) :
    d.isClosed = false ∧ ∃ l c m, d.buffer.line? t.line = some l ∧
      tags.find? l.text c = some m ∧ t = FoundTag.ofMatch d.id t.line l.text m := by
  rw [found_source] at h
  split at h
  case isFalse => cases h
  case isTrue hs =>
    have hopen : d.isClosed = false := isClosed_of_isScannable hs
    cases hm : languages.get? d.language with
    | none => rw [hm] at h; cases h
    | some m =>
      rw [hm, Option.map_some, Option.getD_some] at h
      obtain ⟨k, line, c, found, hline, hfound, rfl⟩ := TagSet.exists_of_mem_findAll h
      rw [Nat.zero_add, lineTexts, List.getElem?_map] at *
      obtain ⟨l, hl, rfl⟩ := Option.map_eq_some_iff.mp hline
      exact ⟨hopen, l, c, found, hl, hfound, rfl⟩

theorem pairwise_found (d : Document) (languages : Languages) (tags : TagSet) :
    (d.source.found languages tags).Pairwise fun a b => a.line < b.line := by
  rw [found_source]
  split
  · cases languages.get? d.language with
    | none => exact List.Pairwise.nil
    | some m => exact TagSet.pairwise_findAll tags d.id m .outside 0 d.lineTexts
  · exact List.Pairwise.nil

end Document

namespace Scanner

/-- A scan of a document finds at most one tag on a line, in the order of the lines. Each tag has
the text of its line, and its range is a stretch of this text: both its ends are places of the
document, and deleting what is between them removes just the characters between the columns. -/
theorem scan_places (s : Scanner) (d : Document) :
    (s.scan d.source).answer.Pairwise (fun a b => a.line < b.line) ∧
    ∀ t ∈ (s.scan d.source).answer,
      t.line < d.source.lineCount ∧ d.lineText? t.line = some t.lineText ∧
      t.range.start.line = t.line ∧ t.range.stop.line = t.line ∧
      t.range.start.column ≤ t.range.stop.column ∧
      t.range.stop.column ≤ t.lineText.length ∧
      (∃ i, d.buffer.index t.range.start = .ok i) ∧
      (∃ j, d.buffer.index t.range.stop = .ok j) ∧
      ∃ rest, d.delete t.range.start t.range.stop =
        .ok ((t.lineText.drop t.range.start.column).take
          (t.range.stop.column - t.range.start.column), rest) := by
  rw [scan_answer]
  refine ⟨d.pairwise_found s.languages s.tags, ?_⟩
  intro t ht
  obtain ⟨hopen, l, c, m, hline, hfound, hmatch⟩ := Document.exists_line_of_mem_found ht
  obtain ⟨hle, hstop⟩ := TagSet.find?_columns hfound
  have hrange : t.range = ⟨⟨t.line, m.startColumn⟩, ⟨t.line, m.stopColumn⟩, .inr ⟨rfl, hle⟩⟩ := by
    rw [hmatch]
    exact FoundTag.range_ofMatch hle
  have htext : t.lineText = l.text := by rw [hmatch]; rfl
  have hcount : t.line < d.source.lineCount := (List.getElem?_eq_some_iff.mp hline).1
  rw [hrange, htext]
  exact ⟨hcount, Document.lineText?_eq hopen hline, rfl, rfl, hle, hstop,
    ⟨_, Buffer.index_of_le hline (Nat.le_trans hle hstop)⟩, ⟨_, Buffer.index_of_le hline hstop⟩,
    Document.delete_columns hline hle hstop⟩

end Scanner

end CommentTags
