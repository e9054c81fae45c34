import CommentTags.Proofs.Tag.PlainSearch
import CommentTags.Proofs.Tag.Surrounded

/-!
Tags with a pattern of their own. What is written around the pattern changes neither where it is
found in a text of one line nor which of its matches is preferred there; the annotation is what
follows that match.
-/
namespace CommentTags

namespace Unicode.CaseRun

end Unicode.CaseRun

namespace Pattern

variable (p : Pattern) {c : Cursor} {t : Text}

/-- A match begins at a place of the text. -/
theorem reaches_of_find? {m : Cursor × Cursor} (h : find? p t = some m) :
    (Cursor.atStart t).Reaches m.1 ∧ m.1.Reaches m.2 := by
  rw [find?, search_eq_findSome?] at h
  obtain ⟨n, -, hn⟩ := List.exists_of_findSome?_eq_some h
  obtain ⟨e, he, rfl⟩ := Option.map_eq_some_iff.mp hn
  exact ⟨⟨n, rfl⟩, ends_reaches p (List.mem_of_head? he)⟩

end Pattern

namespace Finder

variable (f : Finder) {c : Comment}

/-- In a comment of one line a match is one of the pattern alone, and goes on to the end. -/
theorem find?_line (h : '\n' ∉ c.text) (line : Text) :
    f.find? line c = (Pattern.find? f.subject c.text).map fun m =>
      let matched := Text.trim m.1.rest
      let startColumn := Text.columnAt line (f.startByte c matched)
      { tag := f.tag
        annotation := Text.trim (Text.dropSeparator m.2.rest)
        startColumn := startColumn
        stopColumn := min (startColumn + matched.length) line.length } := by
  rw [find?, split?, findSplit?_remainder f.subject h, Option.map_map]
  cases hm : Pattern.find? f.subject c.text with
  | none => rfl
  | some m =>
    obtain ⟨hstart, hend⟩ := Pattern.reaches_of_find? f.subject hm
    have hannotated : (Cursor.atStart c.text).Reaches m.2.pastSeparator :=
      (hstart.trans hend).trans m.2.reaches_pastSeparator
    simp only [Option.map_some, Function.comp_apply, hstart.take_rest, hannotated.take_rest]
    rw [Cursor.rest_pastSeparator]

end Finder

namespace Tag

end Tag

namespace TagSet

theorem subject_of_mem_compileFrom {tags : List Tag} {index : Nat} {f : Finder}
    (h : f ∈ (compileFrom index tags).1) : f.tag.subject = .ok f.subject := by
  induction tags generalizing index with
  | nil => cases h
  | cons tag tags ih =>
    rw [compileFrom] at h
    cases hsubject : tag.subject with
    | error flaw =>
      simp only [hsubject] at h
      exact ih h
    | ok p =>
      simp only [hsubject] at h
      rcases List.mem_cons.mp h with rfl | h
      · exact hsubject
      · exact ih h

end TagSet

end CommentTags
