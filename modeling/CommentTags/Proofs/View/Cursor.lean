import Mathlib.Data.List.Find
import CommentTags.Proofs.Scanner.CacheOrder
import CommentTags.Proofs.View.Order
import CommentTags.View.Navigation

/-!
A cursor among tags. Where no position touches two tags, each tag ends before the next one starts.
Two counts tell where a cursor stands among such tags, how many start at it or before it and how
many end before it: they differ by one on a tag and agree off all tags. A jump forward leads to the
place that is the first count, a jump backward to the place before the second.
-/
namespace CommentTags

theorem Range.touches_iff {r : Range} {p : Position} :
    r.touches p ↔ r.start ≤ p ∧ p ≤ r.stop := by
  rw [touches, Bool.and_eq_true, decide_eq_true_eq, decide_eq_true_eq]

theorem Range.touches_start (r : Range) : r.touches r.start :=
  touches_iff.mpr ⟨Position.le_refl _, r.start_le_stop⟩

theorem Range.start_lt_of_stop_lt {r : Range} {p : Position} (h : r.stop < p) : r.start < p :=
  Position.lt_of_le_of_lt r.start_le_stop h

/-- A cursor off the range that is not before it is after it. -/
theorem Range.start_le_iff {r : Range} {p : Position} (h : ¬r.touches p) :
    r.start ≤ p ↔ r.stop < p := by
  constructor
  · intro hstart
    exact Position.not_le.mp fun hstop => h (touches_iff.mpr ⟨hstart, hstop⟩)
  · intro hstop
    exact Position.le_of_lt (start_lt_of_stop_lt hstop)

theorem Range.start_lt_iff {r : Range} {p : Position} (h : ¬r.touches p) :
    r.start < p ↔ r.stop < p :=
  ⟨fun hlt => (start_le_iff h).mp (Position.le_of_lt hlt), start_lt_of_stop_lt⟩

namespace Navigation

/-- No position touches two of the tags. -/
def Apart (tags : List FoundTag) : Prop :=
  tags.Pairwise fun a b => ∀ p, ¬(a.range.touches p ∧ b.range.touches p)

theorem Apart.perm {tags tags' : List FoundTag} (h : tags.Perm tags') (hapart : Apart tags') :
    Apart tags :=
  (h.pairwise_iff fun hab p hp => hab p hp.symm).mpr hapart

/-- Tags on different lines are apart. -/
theorem apart_of_lines {tags : List FoundTag}
    (h : tags.Pairwise fun a b => a.range.stop.line < b.range.start.line ∨
      b.range.stop.line < a.range.start.line) : Apart tags := by
  apply h.imp
  intro a b hab p ⟨ha, hb⟩
  obtain ⟨hastart, hastop⟩ := Range.touches_iff.mp ha
  obtain ⟨hbstart, hbstop⟩ := Range.touches_iff.mp hb
  rw [Position.le_def] at hastart hastop hbstart hbstop
  omega

/-- A scan finds at most one tag on a line. -/
theorem apart_scan (s : Scanner) (d : Source) : Apart (s.scan d).answer := by
  have hfindAll : ∀ m lines, Apart (s.tags.findAll d.id m .outside 0 lines) := by
    intro m lines
    apply apart_of_lines
    apply (s.tags.pairwise_findAll d.id m .outside 0 lines).imp_of_mem
    intro a b ha hb hlt
    rw [TagSet.stop_line_of_mem_findAll ha, TagSet.start_line_of_mem_findAll hb]
    exact .inl hlt
  rw [s.scan_answer d, d.found_eq_findAll]
  split
  case isFalse => exact List.Pairwise.nil
  case isTrue =>
    cases s.languages.get? d.language with
    | none => exact List.Pairwise.nil
    | some m => exact hfindAll m _

/-- One tag after the other, with room between each and the next. -/
def Ascending (tags : List FoundTag) : Prop :=
  tags.Pairwise fun a b => a.range.stop < b.range.start

theorem byStart_perm (tags : List FoundTag) : (byStart tags).Perm tags := List.mergeSort_perm _ _

theorem ascending_byStart {tags : List FoundTag} (h : Apart tags) : Ascending (byStart tags) := by
  have hle : (byStart tags).Pairwise fun a b => a.startsBefore b :=
    List.pairwise_mergeSort FoundTag.startsBefore_trans FoundTag.startsBefore_total _
  refine (h.perm (byStart_perm tags)).imp₂ (fun a b hab hstart => ?_) hle
  -- If the second started on the first, its start would touch both.
  apply Position.not_le.mp
  intro hon
  apply hab b.range.start
  exact ⟨Range.touches_iff.mpr ⟨FoundTag.startsBefore_iff.mp hstart, hon⟩, b.range.touches_start⟩

/-- How many tags start at the cursor or before it. -/
def startedBy (tags : List FoundTag) (p : Position) : Nat :=
  tags.countP fun t => t.range.start ≤ p

/-- How many tags end before the cursor. -/
def passedBy (tags : List FoundTag) (p : Position) : Nat :=
  tags.countP fun t => t.range.stop < p

theorem startedBy_le (tags : List FoundTag) (p : Position) : startedBy tags p ≤ tags.length :=
  List.countP_le_length

theorem passedBy_le (tags : List FoundTag) (p : Position) : passedBy tags p ≤ tags.length :=
  List.countP_le_length

section Ascending

variable {l : List FoundTag} {p : Position} {i j : Nat} {t u : FoundTag}

/-- Off all tags, what has started has ended. -/
theorem startedBy_eq_passedBy (h : ∀ t ∈ l, ¬t.range.touches p) :
    startedBy l p = passedBy l p := by
  apply List.countP_congr
  intro t ht
  rw [decide_eq_true_eq, decide_eq_true_eq]
  exact Range.start_le_iff (h t ht)

variable (h : Ascending l)

include h

theorem Ascending.stop_lt_start (hij : i < j) (hi : l[i]? = some t) (hj : l[j]? = some u) :
    t.range.stop < u.range.start := by
  obtain ⟨hi', rfl⟩ := List.getElem?_eq_some_iff.mp hi
  obtain ⟨hj', rfl⟩ := List.getElem?_eq_some_iff.mp hj
  exact List.pairwise_iff_getElem.mp h i j hi' hj' hij

theorem Ascending.pairwise_start : l.Pairwise fun a b => a.range.start < b.range.start :=
  h.imp fun {a _} hab => Position.lt_of_le_of_lt a.range.start_le_stop hab

theorem Ascending.started_first : l.Pairwise fun a b =>
    decide (b.range.start ≤ p) → decide (a.range.start ≤ p) := by
  apply h.pairwise_start.imp
  intro a b hab hb
  rw [decide_eq_true_eq] at *
  exact Position.le_trans (Position.le_of_lt hab) hb

theorem Ascending.passed_first : l.Pairwise fun a b =>
    decide (b.range.stop < p) → decide (a.range.stop < p) := by
  apply h.imp
  intro a b hab hb
  rw [decide_eq_true_eq] at *
  exact Position.lt_of_lt_of_le hab (Position.le_of_lt (Range.start_lt_of_stop_lt hb))

theorem Ascending.lt_startedBy_iff (hi : l[i]? = some t) :
    i < startedBy l p ↔ t.range.start ≤ p := by
  rw [startedBy, Sort.lt_countP_iff h.started_first hi, decide_eq_true_eq]

theorem Ascending.lt_passedBy_iff (hi : l[i]? = some t) :
    i < passedBy l p ↔ t.range.stop < p := by
  rw [passedBy, Sort.lt_countP_iff h.passed_first hi, decide_eq_true_eq]

theorem Ascending.start_le_start (hij : i ≤ j) (hi : l[i]? = some t) (hj : l[j]? = some u) :
    t.range.start ≤ u.range.start := by
  have hlt : j < startedBy l u.range.start := (h.lt_startedBy_iff hj).mpr (Position.le_refl _)
  exact (h.lt_startedBy_iff hi).mp (Nat.lt_of_le_of_lt hij hlt)

/-- On a tag, all before it have ended and none after it has started. -/
theorem Ascending.counts_of_touches (hi : l[i]? = some t) (hp : t.range.touches p) :
    startedBy l p = i + 1 ∧ passedBy l p = i := by
  obtain ⟨hstart, hstop⟩ := Range.touches_iff.mp hp
  have hstarted : i < startedBy l p := (h.lt_startedBy_iff hi).mpr hstart
  have hnotpassed : ¬i < passedBy l p := fun hlt =>
    Position.not_le.mpr ((h.lt_passedBy_iff hi).mp hlt) hstop
  have hnext : ¬i + 1 < startedBy l p := by
    intro hlt
    have hlen : i + 1 < l.length := Nat.lt_of_lt_of_le hlt (startedBy_le l p)
    have hgap := h.stop_lt_start (Nat.lt_succ_self i) hi (List.getElem?_eq_getElem hlen)
    have hbegun := (h.lt_startedBy_iff (List.getElem?_eq_getElem hlen)).mp hlt
    exact Position.not_le.mpr hgap (Position.le_trans hbegun hstop)
  have hbefore : ¬passedBy l p < i := by
    intro hlt
    have hlen : passedBy l p < l.length :=
      Nat.lt_trans hlt (List.getElem?_eq_some_iff.mp hi).1
    have hgap := h.stop_lt_start hlt (List.getElem?_eq_getElem hlen) hi
    have hended := (h.lt_passedBy_iff (List.getElem?_eq_getElem hlen)).mpr
      (Position.lt_of_lt_of_le hgap hstart)
    exact Nat.lt_irrefl _ hended
  omega

theorem Ascending.counts_of_under? (hu : under? l p = some i) :
    startedBy l p = i + 1 ∧ passedBy l p = i := by
  obtain ⟨hi, hp, -⟩ := List.findIdx?_eq_some_iff_getElem.mp hu
  exact h.counts_of_touches (List.getElem?_eq_getElem hi) hp

end Ascending

theorem not_touches_of_under? {l : List FoundTag} {p : Position} (hu : under? l p = none) :
    ∀ t ∈ l, ¬t.range.touches p := by
  intro t ht
  rw [List.findIdx?_eq_none_iff.mp hu t ht]
  exact Bool.false_ne_true

/-- One step back among `n` places, from any place but the first. -/
theorem back_mod {i n : Nat} (hpos : 0 < i) (hle : i ≤ n) : (i + n - 1) % n = i - 1 := by
  have hshift : i + n - 1 = (i - 1) + n := by omega
  rw [hshift, Nat.add_mod_right, Nat.mod_eq_of_lt (by omega)]

section Jump

variable {tags : List FoundTag} (h : Apart tags) (p : Position)

include h

/-- Forward to the first tag that has not started, or round to the first of all. -/
theorem next?_eq :
    next? tags p =
      (byStart tags)[startedBy (byStart tags) p % (byStart tags).length]? := by
  have hl := ascending_byStart h
  rw [next?]
  generalize byStart tags = l at *
  cases hu : under? l p with
  | some i => rw [(hl.counts_of_under? hu).1]
  | none =>
    have hfind : l.find? (fun t => p < t.range.start) = l[startedBy l p]? := by
      rw [startedBy, ← Sort.find?_not_eq hl.started_first]
      simp only [← Position.not_le, decide_not]
    dsimp only
    rw [hfind]
    rcases Nat.lt_or_eq_of_le (startedBy_le l p) with hlt | heq
    · rw [Nat.mod_eq_of_lt hlt, List.getElem?_eq_getElem hlt, Option.some_or]
    · rw [heq, Nat.mod_self, List.getElem?_eq_none (Nat.le_refl _), Option.none_or,
        List.head?_eq_getElem?]

/-- Backward to the last tag that has ended, or round to the last of all. -/
theorem previous?_eq :
    previous? tags p =
      (byStart tags)[(passedBy (byStart tags) p + (byStart tags).length - 1) %
        (byStart tags).length]? := by
  have hl := ascending_byStart h
  rw [previous?]
  generalize byStart tags = l at *
  cases hu : under? l p with
  | some i => rw [(hl.counts_of_under? hu).2]
  | none =>
    have hoff := not_touches_of_under? hu
    have hsame : ∀ t ∈ l.reverse, decide (t.range.start < p) = decide (t.range.stop < p) :=
      fun t ht => decide_eq_decide.mpr (Range.start_lt_iff (hoff t (List.mem_reverse.mp ht)))
    dsimp only
    rw [List.find?_congr hsame, Sort.find?_reverse_eq hl.passed_first, ← passedBy]
    split
    case isTrue hzero =>
      rw [hzero, Option.none_or, List.getLast?_eq_getElem?, Nat.zero_add]
      rcases Nat.eq_zero_or_pos l.length with hlen | hlen
      · rw [hlen]
      · rw [Nat.mod_eq_of_lt (Nat.sub_one_lt_of_lt hlen)]
    case isFalse hne =>
      have hpos : 0 < passedBy l p := Nat.pos_of_ne_zero hne
      have hlt : passedBy l p - 1 < l.length := Nat.sub_one_lt_of_le hpos (passedBy_le l p)
      rw [back_mod hpos (passedBy_le l p), List.getElem?_eq_getElem hlt, Option.some_or]

end Jump

end Navigation

end CommentTags
