import CommentTags.Proofs.Tag.Annotation
import CommentTags.Proofs.Text

/-!
Tags without a pattern. Looking for them in a comment is a plain search for their names, without
regard to case.
-/
namespace CommentTags

namespace Text

/-- The name stands first in the text, but for the case of its letters. -/
def startsLike (name t : Text) : Bool := (name.map fold).isPrefixOf (t.map fold)

/-- The leftmost place where the name occurs, but for the case of its letters. -/
def likeIndex? (name t : Text) : Option Nat :=
  (List.range (t.length + 1)).find? fun i => startsLike name (t.drop i)

theorem likeIndex?_le {name t : Text} {i : Nat} (h : likeIndex? name t = some i) :
    i ≤ t.length :=
  Nat.lt_succ_iff.mp (List.mem_range.mp (List.mem_of_find?_eq_some h))

end Text

namespace Tag

/-- A name of white space alone is no name. -/
def isNamed (tag : Tag) : Bool := !(Text.trim tag.name.toList).isEmpty

/-- What a search for the name of the tag reports. -/
def plainMatch? (tag : Tag) (line : Text) (c : Comment) : Option TagMatch :=
  (Text.likeIndex? tag.name.toList c.text).map fun i =>
    let startColumn := Text.columnAt line c.offset + i
    { tag := tag
      annotation := Text.trim (Text.dropSeparator (c.text.drop (i + tag.name.toList.length)))
      startColumn := startColumn
      stopColumn := min (startColumn + (Text.trim (c.text.drop i)).length) line.length }

end Tag

namespace Pattern

theorem ends_likeText (name : Text) (c : Cursor) :
    (likeText name).ends c =
      if Text.startsLike name c.rest then [c.advance name.length] else [] := by
  induction name generalizing c with
  | nil => rfl
  | cons n name ih =>
    have hseq : (likeText (n :: name)).ends c =
        distinct ((stepOver (.like n) c).flatMap (likeText name).ends) := by
      rw [likeText, ends, ends]
    have hadvance : c.advance (n :: name).length = c.next.advance name.length := rfl
    rw [hseq, stepOver, hadvance, Cursor.next]
    cases hr : c.rest with
    | nil => rfl
    | cons d t =>
      have hstarts : Text.startsLike (n :: name) (d :: t) =
          (fold n == fold d && Text.startsLike name t) := rfl
      have hlike : (CharClass.like n).contains d = (fold n == fold d) := by
        rw [CharClass.contains, Bool.beq_comm]
      simp only [hlike, hstarts]
      by_cases hfold : (fold n == fold d) = true
      · rw [if_pos hfold, List.flatMap_singleton, ih, hfold, Bool.true_and]
        by_cases hname : Text.startsLike name t = true
        · rw [if_pos hname]; rfl
        · rw [if_neg hname]; rfl
      · rw [Bool.not_eq_true] at hfold
        rw [hfold]
        rfl

theorem find?_likeText (name t : Text) :
    find? (likeText name) t = (Text.likeIndex? name t).map fun i =>
      ((Cursor.atStart t).advance i, (Cursor.atStart t).advance (i + name.length)) := by
  have hplace : ∀ i, (((likeText name).ends ((Cursor.atStart t).advance i)).head?.map fun e =>
      ((Cursor.atStart t).advance i, e)) =
        (Option.guard (fun i => Text.startsLike name (t.drop i)) i).map fun i =>
          ((Cursor.atStart t).advance i, (Cursor.atStart t).advance (i + name.length)) := by
    intro i
    have hrest : ((Cursor.atStart t).advance i).rest = t.drop i := Cursor.rest_advance _ i
    rw [ends_likeText, hrest, Option.guard, Cursor.advance_advance]
    by_cases h : Text.startsLike name (t.drop i) = true
    · rw [if_pos h, if_pos h]; rfl
    · rw [if_neg h, if_neg h]; rfl
  rw [find?, search_eq_findSome?, Text.likeIndex?, ← List.findSome?_guard, List.map_findSome?]
  congr 1
  funext i
  exact hplace i

end Pattern

namespace Cursor

/-- No end cuts off what follows a place. -/
theorem Reaches.take_rest {c e : Cursor} (h : c.Reaches e) :
    e.rest.take (c.finish.index - e.index) = e.rest := by
  have hindex : c.finish.index = e.index + e.rest.length := by
    rw [← h.finish_eq]
    exact index_advance (Nat.le_refl _)
  rw [hindex, Nat.add_sub_cancel_left, List.take_length]

end Cursor

/-- Columns go on through a comment from the column at which it begins. -/
theorem Comment.columnAt_take {c : Comment} {line : Text} (h : c.liesOn line = true) {i : Nat}
    (hi : i ≤ c.text.length) :
    Text.columnAt line (c.offset + Text.bytes (c.text.take i)) =
      Text.columnAt line c.offset + i := by
  obtain ⟨before, after, rfl, hb⟩ := Comment.liesOn_iff.mp h
  have hstart : Text.columnAt (before ++ c.text ++ after) c.offset = before.length := by
    rw [← hb, List.append_assoc, Text.columnAt_append]
  have hinside : before ++ c.text ++ after =
      (before ++ c.text.take i) ++ (c.text.drop i ++ after) := by
    rw [List.append_assoc, List.append_assoc, ← List.append_assoc (c.text.take i),
      List.take_append_drop]
  rw [hstart, ← hb, ← Text.bytes_append, hinside, Text.columnAt_append, List.length_append,
    List.length_take_of_le hi]

namespace Finder

variable {f : Finder} {line : Text} {c : Comment}

theorem split?_plain (hf : f.subject = .likeText f.tag.name.toList) {t : Text} (h : '\n' ∉ t) :
    f.split? t = (Text.likeIndex? f.tag.name.toList t).map fun i =>
      ((Cursor.atStart t).advance i,
        ((Cursor.atStart t).advance (i + f.tag.name.toList.length)).pastSeparator,
        (Cursor.atStart t).finish) := by
  rw [split?, findSplit?_remainder f.subject h, hf, Pattern.find?_likeText, Option.map_map]
  rfl

theorem nameIndex?_eq (f : Finder) (t : Text) :
    f.nameIndex? t = Text.likeIndex? f.tag.name.toList t := by
  rw [nameIndex?, Pattern.find?_likeText, Option.map_map]
  cases h : Text.likeIndex? f.tag.name.toList t with
  | none => rfl
  | some i =>
    have hindex := Cursor.index_advance (c := Cursor.atStart t) (Text.likeIndex?_le h)
    rw [Option.map_some, Function.comp_apply, hindex]
    exact congrArg some (Nat.zero_add i)

/-- The pattern of a name and the search for the column find the same occurrence of it. -/
theorem find?_plain (hf : f.subject = .likeText f.tag.name.toList) (hc : c.liesOn line = true)
    (h : '\n' ∉ c.text) : f.find? line c = f.tag.plainMatch? line c := by
  rw [find?, split?_plain hf h, Tag.plainMatch?, Option.map_map]
  cases hi : Text.likeIndex? f.tag.name.toList c.text with
  | none => rfl
  | some i =>
    have hstart : f.startByte c = fun _ => c.offset + Text.bytes (c.text.take i) := by
      funext matched
      rw [startByte, nameIndex?_eq, hi]
    have hmatched : (Cursor.atStart c.text).Reaches ((Cursor.atStart c.text).advance i) :=
      ⟨i, rfl⟩
    have hannotated : (Cursor.atStart c.text).Reaches
        ((Cursor.atStart c.text).advance (i + f.tag.name.toList.length)).pastSeparator :=
      Cursor.Reaches.trans ⟨_, rfl⟩ (Cursor.reaches_pastSeparator _)
    simp only [Option.map_some, Function.comp_apply, hstart, hmatched.take_rest,
      hannotated.take_rest]
    rw [Cursor.rest_pastSeparator, Cursor.rest_advance, Cursor.rest_advance,
      Comment.columnAt_take hc (Text.likeIndex?_le hi)]
    rfl

end Finder

namespace TagSet

variable {tags : List Tag}

theorem subject_plain {tag : Tag} (h : tag.pattern = none) :
    tag.subject =
      if tag.isNamed then .ok (.likeText tag.name.toList) else .error .emptyName := by
  rw [Tag.subject, Tag.isNamed, h]
  cases (Text.trim tag.name.toList).isEmpty <;> rfl

theorem compileFrom_plain (h : ∀ tag ∈ tags, tag.pattern = none) (index : Nat) :
    (compileFrom index tags).1 =
      (tags.filter Tag.isNamed).map fun tag => ⟨tag, .likeText tag.name.toList⟩ := by
  induction tags generalizing index with
  | nil => rfl
  | cons tag tags ih =>
    have hrest := ih (fun t ht => h t (List.mem_cons_of_mem tag ht)) (index + 1)
    rw [compileFrom, subject_plain (h tag List.mem_cons_self), List.filter_cons]
    by_cases hnamed : tag.isNamed = true
    · rw [if_pos hnamed, if_pos hnamed, List.map_cons, ← hrest]
    · rw [if_neg hnamed, if_neg hnamed, ← hrest]

/-- Tags without a pattern are found by a plain search: of those that have a name, the first
whose name occurs in the comment is reported, at the leftmost place where it does. -/
theorem find?_compile_plain (hplain : ∀ tag ∈ tags, tag.pattern = none) {line : Text}
    {c : Comment} (hc : c.liesOn line = true) (hline : '\n' ∉ c.text) :
    (compile tags).1.find? line c =
      (tags.filter Tag.isNamed).findSome? fun tag => tag.plainMatch? line c := by
  have hfinders : (compile tags).1.finders =
      (tags.filter Tag.isNamed).map fun tag => ⟨tag, .likeText tag.name.toList⟩ :=
    compileFrom_plain hplain 0
  rw [find?, if_pos hc, hfinders, List.findSome?_map]
  congr 1
  funext tag
  exact Finder.find?_plain rfl hc hline

/-- In a name every character stands for itself. -/
theorem find?_compile_cpp :
    (compile [.named " ", .named "TODO", .named "C++"]).1.find? "é; // see c++: go".toList
        ⟨" see c++: go".toList, 6⟩ =
      some ⟨.named "C++", "go".toList, 10, 17⟩ :=
  (find?_compile_plain (by decide) (by decide) (by decide)).trans (by decide +kernel)

end TagSet

end CommentTags
