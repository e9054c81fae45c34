import Mathlib.Data.List.Basic
import CommentTags.Comment.Locator
import CommentTags.Tag.Finder

/-!
Bytes, columns and cuts of a text that is put together from parts.
-/
namespace CommentTags.Text

theorem bytes_append (s t : Text) : bytes (s ++ t) = bytes s + bytes t := by
  induction s with
  | nil => simp [bytes]
  | cons c s ih => simp only [List.cons_append, bytes, ih, Nat.add_assoc]

/-- The length in bytes is that of the string with these characters. -/
theorem bytes_eq_utf8ByteSize (t : Text) : bytes t = (String.ofList t).utf8ByteSize := by
  induction t with
  | nil => rfl
  | cons c t ih => rw [bytes, ih]; simp

theorem splitAtByte?_cons {c : Char} {t : Text} {n : Nat} (h : n ≠ 0) :
    splitAtByte? (c :: t) n =
      if n < c.utf8Size then none
      else (splitAtByte? t (n - c.utf8Size)).map fun s => (c :: s.1, s.2) := by
  cases n with
  | zero => exact (h rfl).elim
  | succ n => rfl

theorem splitAtByte?_append (s t : Text) : splitAtByte? (s ++ t) (bytes s) = some (s, t) := by
  induction s with
  | nil => cases t <;> rfl
  | cons c s ih =>
    have hc : 0 < c.utf8Size := c.utf8Size_pos
    rw [List.cons_append, bytes, splitAtByte?_cons (by omega), if_neg (by omega),
      Nat.add_sub_cancel_left, ih]
    rfl

theorem eq_append_of_splitAtByte? {t : Text} {n : Nat} {s : Text × Text}
    (h : splitAtByte? t n = some s) : t = s.1 ++ s.2 ∧ bytes s.1 = n := by
  induction t generalizing n s with
  | nil =>
    cases n with
    | zero => cases h; exact ⟨rfl, rfl⟩
    | succ n => cases h
  | cons c t ih =>
    by_cases hn : n = 0
    · subst hn
      cases h
      exact ⟨rfl, rfl⟩
    · rw [splitAtByte?_cons hn] at h
      split at h
      · cases h
      · obtain ⟨r, hr, rfl⟩ := Option.map_eq_some_iff.mp h
        obtain ⟨ht, hb⟩ := ih hr
        refine ⟨by rw [ht]; rfl, ?_⟩
        rw [bytes, hb]
        omega

theorem columnAt_append (s t : Text) : columnAt (s ++ t) (bytes s) = s.length := by
  induction s with
  | nil => cases t <;> rfl
  | cons c s ih =>
    have hc : 0 < c.utf8Size := c.utf8Size_pos
    rw [List.cons_append, columnAt, bytes, if_neg (by omega), Nat.add_sub_cancel_left, ih]
    rfl

/-- At its first occurrence the needle stands between the two parts. -/
theorem eq_append_of_cut? {t needle : Text} {s : Text × Text} (h : t.cut? needle = some s) :
    t = s.1 ++ needle ++ s.2 := by
  induction t generalizing s with
  | nil =>
    rw [cut?] at h
    split at h
    case isTrue hn =>
      cases h
      simpa using hn
    case isFalse => cases h
  | cons c t ih =>
    rw [cut?] at h
    split at h
    case h_1 after ha =>
      cases h
      exact (List.isPrefixOf?_eq_some_iff_append_eq.mp ha).symm
    case h_2 =>
      obtain ⟨r, hr, rfl⟩ := Option.map_eq_some_iff.mp h
      rw [ih hr]
      rfl

theorem cut?_of_prefix {t needle : Text} (h : needle <+: t) :
    t.cut? needle = some ([], t.drop needle.length) := by
  obtain ⟨after, rfl⟩ := h
  rw [List.drop_left]
  cases hn : needle ++ after with
  | nil =>
    obtain ⟨rfl, rfl⟩ := List.append_eq_nil_iff.mp hn
    rfl
  | cons c t =>
    have hp : needle.isPrefixOf? (c :: t) = some after :=
      List.isPrefixOf?_eq_some_iff_append_eq.mpr hn
    rw [cut?, hp]

theorem cut?_cons_of_not_prefix {c : Char} {t needle : Text} (h : ¬needle <+: c :: t) :
    cut? (c :: t) needle = (t.cut? needle).map fun s => (c :: s.1, s.2) := by
  have hp : needle.isPrefixOf? (c :: t) = none := by
    rw [Option.eq_none_iff_forall_ne_some]
    intro after ha
    exact h ⟨after, List.isPrefixOf?_eq_some_iff_append_eq.mp ha⟩
  rw [cut?, hp]

/-- No occurrence of a needle is further left than the first. -/
theorem exists_cut?_append (before needle after : Text) :
    ∃ s, cut? (before ++ (needle ++ after)) needle = some s ∧ s.1.length ≤ before.length := by
  induction before with
  | nil => exact ⟨_, cut?_of_prefix (List.prefix_append needle after), Nat.le_refl 0⟩
  | cons c before ih =>
    by_cases hp : needle <+: c :: (before ++ (needle ++ after))
    · exact ⟨_, cut?_of_prefix hp, Nat.zero_le _⟩
    · obtain ⟨s, hcut, hlength⟩ := ih
      refine ⟨(c :: s.1, s.2), ?_, Nat.succ_le_succ hlength⟩
      rw [List.cons_append, cut?_cons_of_not_prefix hp, hcut]
      rfl

end CommentTags.Text

namespace CommentTags

/-- A comment lies on a line when the line has its text after as many bytes as its offset. -/
theorem Comment.liesOn_iff {c : Comment} {line : Text} :
    c.liesOn line = true ↔
      ∃ before after, line = before ++ c.text ++ after ∧ before.bytes = c.offset := by
  rw [Comment.liesOn]
  constructor
  · intro h
    split at h
    case h_1 before rest hs =>
      obtain ⟨hl, hb⟩ := Text.eq_append_of_splitAtByte? hs
      obtain ⟨after, rfl⟩ := List.isPrefixOf_iff_prefix.mp h
      exact ⟨before, after, by rw [hl, List.append_assoc], hb⟩
    case h_2 => cases h
  · rintro ⟨before, after, rfl, hb⟩
    rw [← hb, List.append_assoc, Text.splitAtByte?_append]
    exact List.isPrefixOf_iff_prefix.mpr (List.prefix_append _ _)

end CommentTags
