import Mathlib.Data.List.TakeWhile
import CommentTags.Proofs.Pattern.Ends
import CommentTags.Tag.Finder

/-!
What follows a tag. In a text of one line the separator and the annotation always match, so they
never make the search for a tag give up its preferred match.
-/
namespace CommentTags

/-- The white space of patterns is that of texts. -/
theorem blank_contains (c : Char) : CharClass.blank.contains c = isBlank c := by
  have hp : Unicode.Property.whiteSpaceRanges.pairs =
      [(0x9, 0xD), (0x20, 0x20), (0x85, 0x85), (0xA0, 0xA0), (0x1680, 0x1680), (0x2000, 0x200A),
        (0x2028, 0x2029), (0x202F, 0x202F), (0x205F, 0x205F), (0x3000, 0x3000)] := by decide
  have hc : CharClass.blank.contains c =
      Unicode.Ranges.inPairs c.toNat Unicode.Property.whiteSpaceRanges.pairs := by
    simp [CharClass.blank, CharClass.contains, Unicode.CharSet.contains, Unicode.CharSet.ofRanges,
      Unicode.Ranges.contains]
  rw [hc, hp, Bool.eq_iff_iff]
  simp only [Unicode.Ranges.inPairs, isBlank, Bool.or_eq_true, Bool.and_eq_true,
    decide_eq_true_eq, beq_iff_eq]
  simp
  omega

/-- One of the characters that may stand between a tag and its annotation. -/
def isSeparator (c : Char) : Bool := c == ':' || isBlank c

def Text.dropSeparator : Text → Text
  | [] => []
  | c :: t => if isSeparator c then t else c :: t

theorem single_contains (c d : Char) : (CharClass.single c).contains d = (d == c) := by
  rw [CharClass.single, CharClass.contains, Bool.eq_iff_iff, Bool.and_eq_true, decide_eq_true_eq,
    decide_eq_true_eq, beq_iff_eq]
  constructor
  · rintro ⟨hle, hge⟩
    exact Char.le_antisymm hge hle
  · rintro rfl
    exact ⟨Char.le_refl d, Char.le_refl d⟩

namespace Cursor

/-- The place after a separator, if one comes next. -/
def pastSeparator (c : Cursor) : Cursor :=
  if c.rest.head?.any isSeparator then c.next else c

theorem reaches_pastSeparator (c : Cursor) : c.Reaches c.pastSeparator := by
  rw [pastSeparator]
  split
  · exact c.reaches_next
  · exact .refl c

theorem rest_pastSeparator (c : Cursor) : c.pastSeparator.rest = Text.dropSeparator c.rest := by
  rw [pastSeparator]
  cases hr : c.rest with
  | nil => simp [hr, Text.dropSeparator]
  | cons d t =>
    rw [Text.dropSeparator, List.head?_cons, Option.any_some]
    split
    · rw [rest_next, hr]
      rfl
    · exact hr

end Cursor

theorem stepOver_separator (c : Cursor) :
    Pattern.stepOver (.union (.single ':') .blank) c =
      if c.rest.head?.any isSeparator then [c.next] else [] := by
  rw [Pattern.stepOver, Cursor.next]
  cases hr : c.rest with
  | nil => rfl
  | cons d t =>
    simp only [CharClass.contains, single_contains, blank_contains]
    rfl

/-- A step over the separators, taken at most once, is taken if a separator comes next. -/
theorem head?_repeated_separator {step : Cursor → List Cursor} {c : Cursor}
    (h : step c = if c.rest.head?.any isSeparator then [c.next] else []) :
    (Pattern.repeated step (some 1) true c).head? = some c.pastSeparator := by
  rw [Pattern.repeated, Pattern.head?_distinct, Option.getD_some, Pattern.explore, h,
    Cursor.pastSeparator]
  cases c.rest.head?.any isSeparator with
  | true => simp [Pattern.explore, Pattern.Trail.emit]
  | false => simp [Pattern.Trail.emit]

/-- The separator is taken if it comes next. -/
theorem head?_separator_ends (c : Cursor) :
    (separator.ends c).head? = some c.pastSeparator := by
  have hends : separator.ends c =
      Pattern.repeated (Pattern.stepOver (.union (.single ':') .blank)) (some 1) true c := by
    rw [separator, Pattern.optional, Pattern.ends]
    · rfl
    · intro s _ h
      cases h
  rw [hends]
  exact head?_repeated_separator (stepOver_separator c)

theorem head?_stretch (s : CharClass) (passed : List Cursor) (i : Nat) (before : Option Char)
    (t : Text) :
    (Pattern.stretch s passed i before t).head? =
      some ((⟨i, before, t⟩ : Cursor).advance (t.takeWhile s.contains).length) := by
  induction t generalizing passed i before with
  | nil => rfl
  | cons d t ih =>
    rw [Pattern.stretch, List.takeWhile_cons]
    split
    · rw [ih, List.length_cons]
      rfl
    · rfl

/-- All that follows, up to the end of its line. -/
def Pattern.restOfLine : Pattern := .iterate (.one (.complement (.single '\n'))) none true

theorem head?_restOfLine_ends {c : Cursor} (h : '\n' ∉ c.rest) :
    (Pattern.restOfLine.ends c).head? = some c.finish := by
  have hall : c.rest.takeWhile (CharClass.complement (.single '\n')).contains = c.rest := by
    rw [List.takeWhile_eq_self_iff]
    intro d hd
    rw [CharClass.contains, single_contains, Bool.not_eq_true', beq_eq_false_iff_ne]
    rintro rfl
    exact h hd
  have hfirst := head?_stretch (.complement (.single '\n')) [] c.index c.before c.rest
  rw [hall] at hfirst
  exact hfirst

theorem head?_textStop_finish (c : Cursor) :
    ((Pattern.look .textStop).ends c.finish).head? = some c.finish := by
  have hstop : Look.textStop.holds c.finish = true := by
    rw [Look.holds, c.rest_finish]
    rfl
  rw [Pattern.ends, if_pos hstop]
  rfl

/-- The annotation of a text of one line is all of it. -/
theorem head?_remainder_ends {c : Cursor} (h : '\n' ∉ c.rest) :
    (remainder.ends c).head? = some c.finish := by
  have hstop : ∀ m, (Pattern.restOfLine.ends c).head? = some m →
      ((Pattern.look .textStop).ends m).head? = some m := by
    intro m hm
    rw [head?_restOfLine_ends h] at hm
    cases hm
    exact head?_textStop_finish c
  have hseq : remainder = .seq Pattern.restOfLine (.look .textStop) := rfl
  rw [hseq, Pattern.head?_seq_ends hstop, head?_restOfLine_ends h]
  rfl

theorem head?_seq_separator_ends (p : Pattern) (c : Cursor) :
    ((Pattern.seq p separator).ends c).head? = (p.ends c).head?.map Cursor.pastSeparator :=
  Pattern.head?_seq_ends fun m _ => head?_separator_ends m

/-- In a text of one line, what follows a pattern changes neither where it is found nor the match
that is preferred there. -/
theorem findSplit?_remainder (p : Pattern) {t : Text} (h : '\n' ∉ t) :
    Pattern.findSplit? (.seq p separator) remainder t =
      (Pattern.find? p t).map fun m => (m.1, m.2.pastSeparator, (Cursor.atStart t).finish) := by
  rw [Pattern.findSplit?, Pattern.find?, ← Pattern.search_map]
  apply Pattern.search_congr
  intro c hc
  have hends : ∀ m ∈ (Pattern.seq p separator).ends c,
      ((remainder.ends m).head?.map fun e => (c, m, e)) =
        some (c, m, (Cursor.atStart t).finish) := by
    intro m hm
    have hreach : (Cursor.atStart t).Reaches m := hc.trans (Pattern.ends_reaches _ hm)
    have hline : '\n' ∉ m.rest := fun hn => h (hreach.rest_suffix.subset hn)
    rw [head?_remainder_ends hline, hreach.finish_eq]
    rfl
  have hhead := head?_seq_separator_ends p c
  cases hes : (Pattern.seq p separator).ends c with
  | nil =>
    rw [hes, List.head?_nil] at hhead
    rw [List.findSome?_nil, Option.map_map]
    cases hp : (p.ends c).head? with
    | none => rfl
    | some e => rw [hp] at hhead; cases hhead
  | cons m ms =>
    rw [hes, List.head?_cons] at hhead
    obtain ⟨e, he, hm⟩ := Option.map_eq_some_iff.mp hhead.symm
    rw [List.findSome?_cons, hends m (hes ▸ List.mem_cons_self), he, ← hm]
    rfl

end CommentTags
