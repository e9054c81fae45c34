import Mathlib.Data.List.Rotate
import CommentTags.Proofs.View.Cursor

/-!
Jumping from tag to tag goes round. Each jump moves the cursor one place on in the cycle of the
tags, or one place back, wherever on the tag it reaches the cursor is put; so as many jumps as there
are tags visit all of them, and a jump back undoes a jump forward.
-/
namespace CommentTags.Navigation

/-- Jumps one after the other, with the cursor placed anywhere on the tag just reached. -/
inductive Jumps (jump : Position → Option FoundTag) : Position → List FoundTag → Prop
  | stop (p : Position) : Jumps jump p []
  | jump {p q : Position} {t : FoundTag} {ts : List FoundTag} (lands : jump p = some t)
      (on : t.range.touches q) (rest : Jumps jump q ts) : Jumps jump p (t :: ts)

/-- From anywhere one can jump on and on, and what is visited is the cycle round and round. -/
structure GoesRound (jump : Position → Option FoundTag) (cycle : List FoundTag) : Prop where
  goesOn : ∀ p n, ∃ visited, visited.length = n ∧ Jumps jump p visited
  follows : ∀ p, ∃ i, ∀ visited, Jumps jump p visited →
    ∀ k < visited.length, visited[k]? = cycle[(i + k) % cycle.length]?
  visitsAll : ∀ p visited, Jumps jump p visited → visited.length = cycle.length →
    visited.Perm cycle

section Cycle

variable {jump : Position → Option FoundTag} {cycle : List FoundTag} {place : Position → Nat}

/-- Where a jump lands is the next place, so the places of a run follow one another. -/
theorem Jumps.getElem?_eq (hjump : ∀ p, jump p = cycle[place p % cycle.length]?)
    (hplace : ∀ i t p, cycle[i]? = some t → t.range.touches p → place p = i + 1)
    {p : Position} {visited : List FoundTag} (hv : Jumps jump p visited) {k : Nat}
    (hk : k < visited.length) : visited[k]? = cycle[(place p + k) % cycle.length]? := by
  induction hv generalizing k with
  | stop p => cases hk
  | @jump p q t ts lands on rest ih =>
    cases k with
    | zero => exact lands.symm.trans (hjump p)
    | succ k =>
      have hq : place q = place p % cycle.length + 1 :=
        hplace _ t q ((hjump p).symm.trans lands) on
      rw [List.getElem?_cons_succ, ih (Nat.lt_of_succ_lt_succ hk), hq, Nat.add_assoc,
        Nat.mod_add_mod, Nat.add_comm 1 k]

theorem goesRound (hne : cycle ≠ []) (hjump : ∀ p, jump p = cycle[place p % cycle.length]?)
    (hplace : ∀ i t p, cycle[i]? = some t → t.range.touches p → place p = i + 1) :
    GoesRound jump cycle where
  goesOn p n := by
    induction n generalizing p with
    | zero => exact ⟨[], rfl, .stop p⟩
    | succ n ih =>
      have hlt : place p % cycle.length < cycle.length :=
        Nat.mod_lt _ (List.length_pos_of_ne_nil hne)
      obtain ⟨visited, hlen, hv⟩ := ih cycle[place p % cycle.length].range.start
      refine ⟨cycle[place p % cycle.length] :: visited, congrArg (· + 1) hlen, .jump ?_ ?_ hv⟩
      · rw [hjump, List.getElem?_eq_getElem hlt]
      · exact Range.touches_start _
  follows p := ⟨place p, fun _ hv _ hk => hv.getElem?_eq hjump hplace hk⟩
  visitsAll p visited hv hlen := by
    have hrotate : visited = cycle.rotate (place p) := by
      apply List.ext_getElem?
      intro k
      rcases Nat.lt_or_ge k visited.length with hk | hk
      · rw [hv.getElem?_eq hjump hplace hk, List.getElem?_rotate (hlen ▸ hk), Nat.add_comm]
      · rw [List.getElem?_eq_none hk,
          List.getElem?_eq_none (by rw [List.length_rotate, ← hlen]; exact hk)]
    rw [hrotate]
    exact List.rotate_perm _ _

end Cycle

section Directions

variable {tags : List FoundTag} (h : Apart tags)

include h

theorem goesRound_next? (hne : byStart tags ≠ []) : GoesRound (next? tags) (byStart tags) :=
  goesRound hne (next?_eq h) fun _ _ _ hi hp =>
    ((ascending_byStart h).counts_of_touches hi hp).1

/-- Backwards, the place of a cursor counts the tags that have not ended. -/
theorem previous?_eq_reverse (hne : byStart tags ≠ []) (p : Position) :
    previous? tags p =
      (byStart tags).reverse[((byStart tags).length - passedBy (byStart tags) p) %
        (byStart tags).reverse.length]? := by
  rw [previous?_eq h p, List.length_reverse]
  generalize byStart tags = l at *
  have hpos : 0 < l.length := List.length_pos_of_ne_nil hne
  have hle := passedBy_le l p
  rcases Nat.eq_zero_or_pos (passedBy l p) with hzero | hpassed
  · rw [hzero, Nat.sub_zero, Nat.mod_self, List.getElem?_reverse hpos, Nat.zero_add,
      Nat.sub_zero, Nat.mod_eq_of_lt (Nat.sub_one_lt_of_lt hpos)]
  · have hlt : l.length - passedBy l p < l.length := Nat.sub_lt hpos hpassed
    have hplace : l.length - 1 - (l.length - passedBy l p) = passedBy l p - 1 := by omega
    rw [back_mod hpassed hle, Nat.mod_eq_of_lt hlt, List.getElem?_reverse hlt, hplace]

theorem goesRound_previous? (hne : byStart tags ≠ []) :
    GoesRound (previous? tags) (byStart tags).reverse := by
  refine goesRound (List.reverse_ne_nil_iff.mpr hne) (previous?_eq_reverse h hne) ?_
  intro i t p hi hp
  have hlt : i < (byStart tags).length := by
    rw [← List.length_reverse]
    exact (List.getElem?_eq_some_iff.mp hi).1
  rw [List.getElem?_reverse hlt] at hi
  have hpassed := ((ascending_byStart h).counts_of_touches hi hp).2
  omega

/-- A jump back from where a jump forward led ends one place before it. -/
theorem previous?_of_next? {p q : Position} {t : FoundTag} (hnext : next? tags p = some t)
    (hq : t.range.touches q) :
    previous? tags q =
      (byStart tags)[(startedBy (byStart tags) p + (byStart tags).length - 1) %
        (byStart tags).length]? := by
  have hl := ascending_byStart h
  have hplace := (next?_eq h p).symm.trans hnext
  rw [previous?_eq h, (hl.counts_of_touches hplace hq).2]
  have hpos : 0 < (byStart tags).length :=
    Nat.zero_lt_of_lt (List.getElem?_eq_some_iff.mp hplace).1
  rw [Nat.add_sub_assoc hpos, Nat.mod_add_mod, Nat.add_sub_assoc hpos]

theorem previous?_next?_of_touches {p q : Position} {a t : FoundTag} (ha : a ∈ tags)
    (hp : a.range.touches p) (hnext : next? tags p = some t) (hq : t.range.touches q) :
    previous? tags q = some a := by
  have hl := ascending_byStart h
  obtain ⟨i, hi⟩ := List.mem_iff_getElem?.mp ((byStart_perm tags).mem_iff.mpr ha)
  have hlt : i < (byStart tags).length := (List.getElem?_eq_some_iff.mp hi).1
  rw [previous?_of_next? h hnext hq, (hl.counts_of_touches hi hp).1,
    back_mod (Nat.succ_pos i) hlt, Nat.add_one_sub_one, hi]

theorem previous?_next?_of_not_touches {p q : Position} {t : FoundTag}
    (hoff : ∀ a ∈ tags, ¬a.range.touches p) (hnext : next? tags p = some t)
    (hq : t.range.touches q) : previous? tags q = previous? tags p := by
  have hcounts : startedBy (byStart tags) p = passedBy (byStart tags) p :=
    startedBy_eq_passedBy fun a ha => hoff a ((byStart_perm tags).mem_iff.mp ha)
  rw [previous?_of_next? h hnext hq, previous?_eq h, hcounts]

end Directions

/-- Of the tags with the property, the one that starts first. -/
def IsFirst (tags : List FoundTag) (P : FoundTag → Prop) (t : FoundTag) : Prop :=
  t ∈ tags ∧ P t ∧ ∀ a ∈ tags, P a → t.range.start ≤ a.range.start

/-- Of the tags with the property, the one that starts last. -/
def IsLast (tags : List FoundTag) (P : FoundTag → Prop) (t : FoundTag) : Prop :=
  t ∈ tags ∧ P t ∧ ∀ a ∈ tags, P a → a.range.start ≤ t.range.start

section Extremes

variable {l : List FoundTag} {P : FoundTag → Prop} {p : Position} {i : Nat} {t : FoundTag}
  (h : Ascending l)

include h

theorem Ascending.isFirst (hi : l[i]? = some t) (ht : P t)
    (hfirst : ∀ j a, l[j]? = some a → P a → i ≤ j) : IsFirst l P t := by
  refine ⟨List.mem_of_getElem? hi, ht, fun a ha hPa => ?_⟩
  obtain ⟨j, hj⟩ := List.mem_iff_getElem?.mp ha
  exact h.start_le_start (hfirst j a hj hPa) hi hj

theorem Ascending.isLast (hi : l[i]? = some t) (ht : P t)
    (hlast : ∀ j a, l[j]? = some a → P a → j ≤ i) : IsLast l P t := by
  refine ⟨List.mem_of_getElem? hi, ht, fun a ha hPa => ?_⟩
  obtain ⟨j, hj⟩ := List.mem_iff_getElem?.mp ha
  exact h.start_le_start (hlast j a hj hPa) hj hi

theorem Ascending.isFirst_started (hne : l ≠ []) :
    ∃ t, l[startedBy l p % l.length]? = some t ∧
      (IsFirst l (fun a => p < a.range.start) t ∨
        (∀ a ∈ l, ¬p < a.range.start) ∧ IsFirst l (fun _ => True) t) := by
  have hahead : ∀ j a, l[j]? = some a → (p < a.range.start ↔ startedBy l p ≤ j) := by
    intro j a hj
    rw [← Position.not_le, ← h.lt_startedBy_iff hj, Nat.not_lt]
  rcases Nat.lt_or_eq_of_le (startedBy_le l p) with hlt | heq
  · have ht := List.getElem?_eq_getElem hlt
    rw [Nat.mod_eq_of_lt hlt]
    exact ⟨_, ht, .inl (h.isFirst ht ((hahead _ _ ht).mpr (Nat.le_refl _))
      fun j a hj => (hahead j a hj).mp)⟩
  · have ht := List.getElem?_eq_getElem (List.length_pos_of_ne_nil hne)
    rw [heq, Nat.mod_self]
    refine ⟨_, ht, .inr ⟨fun a ha hlt => ?_, h.isFirst ht trivial fun j _ _ _ => Nat.zero_le j⟩⟩
    obtain ⟨j, hj⟩ := List.mem_iff_getElem?.mp ha
    have hle := (hahead j a hj).mp hlt
    exact Nat.not_le.mpr (List.getElem?_eq_some_iff.mp hj).1 (heq ▸ hle)

theorem Ascending.isLast_passed (hne : l ≠ []) (hoff : ∀ t ∈ l, ¬t.range.touches p) :
    ∃ t, l[(passedBy l p + l.length - 1) % l.length]? = some t ∧
      (IsLast l (fun a => a.range.start < p) t ∨
        (∀ a ∈ l, ¬a.range.start < p) ∧ IsLast l (fun _ => True) t) := by
  have hpos : 0 < l.length := List.length_pos_of_ne_nil hne
  have hbehind : ∀ j a, l[j]? = some a → (a.range.start < p ↔ j < passedBy l p) := by
    intro j a hj
    rw [h.lt_passedBy_iff hj]
    exact Range.start_lt_iff (hoff a (List.mem_of_getElem? hj))
  rcases Nat.eq_zero_or_pos (passedBy l p) with hzero | hpassed
  · have hlast : l.length - 1 < l.length := Nat.sub_one_lt_of_lt hpos
    have ht := List.getElem?_eq_getElem hlast
    rw [hzero, Nat.zero_add, Nat.mod_eq_of_lt hlast]
    refine ⟨_, ht, .inr ⟨fun a ha hlt => ?_, h.isLast ht trivial fun j a hj _ => ?_⟩⟩
    · obtain ⟨j, hj⟩ := List.mem_iff_getElem?.mp ha
      exact Nat.not_lt_zero j (hzero ▸ (hbehind j a hj).mp hlt)
    · exact Nat.le_sub_one_of_lt (List.getElem?_eq_some_iff.mp hj).1
  · have hlt : passedBy l p - 1 < l.length := Nat.sub_one_lt_of_le hpassed (passedBy_le l p)
    have ht := List.getElem?_eq_getElem hlt
    rw [back_mod hpassed (passedBy_le l p)]
    exact ⟨_, ht, .inl (h.isLast ht ((hbehind _ _ ht).mpr (Nat.sub_one_lt_of_lt hpassed))
      fun j a hj hlt => Nat.le_sub_one_of_lt ((hbehind j a hj).mp hlt))⟩

end Extremes

/-- Among tags no two of which a position touches, as those of a scan in any order, jumps go round
the tags in the order of their starts, or against it. A jump back from where a jump forward led
ends on the tag the cursor was on, or where a jump back from the cursor would have. Off all tags, a
jump forward leads to the first tag that starts after the cursor, or else the first of all, and a
jump back to the last that starts before it, or else the last of all. -/
theorem jumps_goRound (tags : List FoundTag) (hne : tags ≠ [])
    (htags : Apart tags ∨ ∃ (s : Scanner) (d : Source), tags.Perm (s.scan d).answer) :
    (∃ ordered : List FoundTag, ordered.Perm tags ∧
      ordered.Pairwise (fun a b => a.range.start < b.range.start) ∧
      GoesRound (next? tags) ordered ∧ GoesRound (previous? tags) ordered.reverse) ∧
    (∀ p q t, next? tags p = some t → t.range.touches q →
      (∀ a ∈ tags, a.range.touches p → previous? tags q = some a) ∧
      ((∀ a ∈ tags, ¬a.range.touches p) → previous? tags q = previous? tags p)) ∧
    ∀ p, (∀ a ∈ tags, ¬a.range.touches p) →
      (∃ t, next? tags p = some t ∧
        (IsFirst tags (fun a => p < a.range.start) t ∨
          (∀ a ∈ tags, ¬p < a.range.start) ∧ IsFirst tags (fun _ => True) t)) ∧
      ∃ t, previous? tags p = some t ∧
        (IsLast tags (fun a => a.range.start < p) t ∨
          (∀ a ∈ tags, ¬a.range.start < p) ∧ IsLast tags (fun _ => True) t) := by
  have h : Apart tags := by
    rcases htags with h | ⟨s, d, hperm⟩
    · exact h
    · exact (apart_scan s d).perm hperm
  have hl := ascending_byStart h
  have hperm := byStart_perm tags
  have hsorted : byStart tags ≠ [] := fun hnil => hne (List.nil_perm.mp (hnil ▸ hperm))
  refine ⟨⟨byStart tags, hperm, hl.pairwise_start, goesRound_next? h hsorted,
    goesRound_previous? h hsorted⟩, ?_, ?_⟩
  · intro p q t hnext hq
    exact ⟨fun a ha hp => previous?_next?_of_touches h ha hp hnext hq,
      fun hoff => previous?_next?_of_not_touches h hoff hnext hq⟩
  · intro p hoff
    have hoff' : ∀ a ∈ byStart tags, ¬a.range.touches p := fun a ha =>
      hoff a (hperm.mem_iff.mp ha)
    have hfirst := hl.isFirst_started (p := p) hsorted
    have hlast := hl.isLast_passed hsorted hoff'
    simp only [IsFirst, IsLast, hperm.mem_iff] at hfirst hlast
    rw [next?_eq h, previous?_eq h]
    exact ⟨hfirst, hlast⟩

/-- A tag from one column to another of a line. -/
def todoAt (line first last : Nat) : FoundTag :=
  ⟨"a.rs", .onLine line first last, [], "TODO", [], line⟩

/-- From the end of the last tag forward to the first one, which is empty, and back; three jumps
visit all three tags. -/
theorem jumps_goRound_unsorted :
    let empty := todoAt 0 5 5
    let last := todoAt 2 4 8
    let tags := [last, empty, todoAt 1 0 4]
    tags ≠ [] ∧ Apart tags ∧ next? tags last.range.stop = some empty ∧
      (∀ q, empty.range.touches q → previous? tags q = some last) ∧
      ∀ p visited, Jumps (next? tags) p visited → visited.length = 3 → visited.Perm tags := by
  intro empty last tags
  have hne : tags ≠ [] := List.cons_ne_nil _ _
  have hapart : Apart tags := apart_of_lines (by decide)
  have hsorted : byStart tags = [empty, todoAt 1 0 4, last] := by
    simp [tags, empty, last, byStart, List.mergeSort, List.MergeSort.Internal.splitInTwo,
      FoundTag.startsBefore, todoAt, Range.onLine, Range.between, Position.le_def]
  have hnext : next? tags last.range.stop = some empty := by
    rw [next?, hsorted]
    decide
  have hon : last.range.touches last.range.stop := by decide
  obtain ⟨⟨ordered, hperm, -, hforward, -⟩, hback, -⟩ := jumps_goRound tags hne (.inl hapart)
  refine ⟨hne, hapart, hnext, fun q hq => ?_, fun p visited hv hlen => ?_⟩
  · exact (hback _ q empty hnext hq).1 last List.mem_cons_self hon
  · exact (hforward.visitsAll p visited hv (hlen.trans hperm.length_eq.symm)).trans hperm

end CommentTags.Navigation
