import Mathlib.Data.List.Basic

/-!
Stable sorting. What is taken from a sorted list is what is taken from the list and then sorted;
and a list in the order of its keys falls into parts, one for each key.
-/
namespace CommentTags.Sort

variable {α κ : Type}

section Stable

variable {le : α → α → Bool} (trans : ∀ a b c, le a b → le b c → le a c)
  (total : ∀ a b, le a b || le b a)

include trans total

/-- A new first element goes before all that it may stand before. -/
theorem mergeSort_cons_eq (a : α) (l : List α) :
    (a :: l).mergeSort le =
      (l.mergeSort le).filter (fun b => !le a b) ++ a :: (l.mergeSort le).filter (le a) := by
  obtain ⟨before, after, hcons, htail, hbefore⟩ := List.mergeSort_cons trans total a l
  have hsorted := List.pairwise_mergeSort trans total (a :: l)
  rw [hcons, List.pairwise_append] at hsorted
  have hafter : ∀ b ∈ after, le a b = true := (List.pairwise_cons.mp hsorted.2.1).1
  have hkept : before.filter (fun b => !le a b) = before ∧ after.filter (le a) = after :=
    ⟨List.filter_eq_self.mpr hbefore, List.filter_eq_self.mpr hafter⟩
  have hgone : after.filter (fun b => !le a b) = [] ∧ before.filter (le a) = [] := by
    constructor
    · rw [List.filter_eq_nil_iff]
      intro b hb
      simp [hafter b hb]
    · rw [List.filter_eq_nil_iff]
      intro b hb
      simpa using hbefore b hb
  rw [hcons, htail, List.filter_append, List.filter_append, hkept.1, hkept.2, hgone.1, hgone.2,
    List.append_nil, List.nil_append]

theorem filter_mergeSort (p : α → Bool) (l : List α) :
    (l.mergeSort le).filter p = (l.filter p).mergeSort le := by
  induction l with
  | nil => rw [List.filter_nil, List.mergeSort_nil, List.filter_nil]
  | cons a l ih =>
    by_cases hp : p a = true
    · rw [List.filter_cons_of_pos hp, mergeSort_cons_eq trans total, mergeSort_cons_eq trans total,
        ← ih, List.filter_append, List.filter_cons_of_pos hp]
      simp only [List.filter_filter, Bool.and_comm]
    · obtain ⟨before, after, hcons, htail, -⟩ := List.mergeSort_cons trans total a l
      rw [List.filter_cons_of_neg hp, ← ih, hcons, htail, List.filter_append, List.filter_append,
        List.filter_cons_of_neg hp]

/-- Elements that all may stand before each other stay in the order of the list. -/
theorem filter_mergeSort_eq_filter {p : α → Bool} (h : ∀ a b, p a → p b → le a b) (l : List α) :
    (l.mergeSort le).filter p = l.filter p := by
  rw [filter_mergeSort trans total]
  apply List.mergeSort_of_pairwise
  apply List.pairwise_of_forall_mem_list
  intro a ha b hb
  exact h a b (List.mem_filter.mp ha).2 (List.mem_filter.mp hb).2

/-- Sorting keeps the order of elements that compare as equal. -/
theorem pairwise_mergeSort_stable {r : α → α → Prop} {l : List α} (h : l.Pairwise r) :
    (l.mergeSort le).Pairwise fun a b => le a b ∧ (le b a → r a b) := by
  induction l with
  | nil =>
    rw [List.mergeSort_nil]
    exact List.Pairwise.nil
  | cons a l ih =>
    obtain ⟨hfirst, hrest⟩ := List.pairwise_cons.mp h
    obtain ⟨before, after, hcons, htail, hbefore⟩ := List.mergeSort_cons trans total a l
    have hsorted := List.pairwise_mergeSort trans total (a :: l)
    rw [hcons] at hsorted ⊢
    obtain ⟨-, hafter, hacross⟩ := List.pairwise_append.mp hsorted
    have hih := ih hrest
    rw [htail, List.pairwise_append] at hih
    refine List.pairwise_append.mpr ⟨hih.1, List.pairwise_cons.mpr ⟨?_, hih.2.1⟩, ?_⟩
    · intro b hb
      have hmem : b ∈ l := by
        have hsortedMem : b ∈ l.mergeSort le := by
          rw [htail]
          exact List.mem_append_right before hb
        exact List.mem_mergeSort.mp hsortedMem
      exact ⟨(List.pairwise_cons.mp hafter).1 b hb, fun _ => hfirst b hmem⟩
    · intro b hb c hc
      rcases List.mem_cons.mp hc with rfl | hc
      · -- What stands before the new element does not compare as equal to it.
        refine ⟨hacross b hb c List.mem_cons_self, fun hle => ?_⟩
        have hnot := hbefore b hb
        rw [hle] at hnot
        cases hnot
      · exact hih.2.2 b hb c hc

end Stable

theorem pairwise_le_mergeSort (l : List String) :
    (l.mergeSort (· ≤ ·)).Pairwise fun s t => s ≤ t := by
  have hsorted : (l.mergeSort (· ≤ ·)).Pairwise fun s t => decide (s ≤ t) = true := by
    apply List.pairwise_mergeSort
    · simpa using fun a b c => String.le_trans
    · simpa using String.le_total
  exact hsorted.imp fun h => of_decide_eq_true h

theorem lt_or_eq_of_le {s t : String} (h : s ≤ t) : s < t ∨ s = t := by
  by_cases hback : t ≤ s
  · exact .inr (String.le_antisymm h hback)
  · exact .inl (String.not_le.mp hback)

theorem pairwise_lt_mergeSort {l : List String} (h : l.Nodup) :
    (l.mergeSort (· ≤ ·)).Pairwise fun s t => s < t := by
  have hnodup : (l.mergeSort (· ≤ ·)).Nodup := (List.mergeSort_perm _ _).nodup_iff.mpr h
  exact hnodup.imp₂ (fun s t hne hle => (lt_or_eq_of_le hle).resolve_right hne)
    (pairwise_le_mergeSort l)

/-- Only how the elements of a list compare matters for its order. -/
theorem mergeSort_congr {le le' : α → α → Bool} {l : List α}
    (h : ∀ a ∈ l, ∀ b ∈ l, le a b = le' a b) : l.mergeSort le = l.mergeSort le' := by
  have hmap := List.map_mergeSort (f := id) (l := l) h
  rwa [List.map_id, List.map_id] at hmap

/-- Where nothing that has the property comes after anything that has not, the list falls into two
parts. -/
theorem filter_append_filter_not {p : α → Bool} {l : List α}
    (h : l.Pairwise fun a b => p b → p a) : l.filter p ++ l.filter (fun a => !p a) = l := by
  induction l with
  | nil => rfl
  | cons a l ih =>
    obtain ⟨ha, hl⟩ := List.pairwise_cons.mp h
    by_cases hp : p a = true
    · rw [List.filter_cons_of_pos hp, List.filter_cons_of_neg (by simp [hp]), List.cons_append,
        ih hl]
    · have hnone : l.filter p = [] := List.filter_eq_nil_iff.mpr fun b hb hpb => hp (ha b hb hpb)
      have hall : l.filter (fun b => !p b) = l := by
        have hsplit := ih hl
        rwa [hnone, List.nil_append] at hsplit
      rw [List.filter_cons_of_neg hp, List.filter_cons_of_pos (by simp [hp]), hnone, hall,
        List.nil_append]

section Prefix

variable {p : α → Bool} {l : List α} (h : l.Pairwise fun a b => p b → p a)

include h

theorem filter_eq_take : l.filter p = l.take (l.countP p) :=
  calc l.filter p
    _ = (l.filter p ++ l.filter (fun a => !p a)).take (l.filter p).length :=
      List.take_left.symm
    _ = l.take (l.countP p) := by
      rw [filter_append_filter_not h, List.countP_eq_length_filter]

theorem filter_not_eq_drop : l.filter (fun a => !p a) = l.drop (l.countP p) :=
  calc l.filter (fun a => !p a)
    _ = (l.filter p ++ l.filter (fun a => !p a)).drop (l.filter p).length :=
      List.drop_left.symm
    _ = l.drop (l.countP p) := by
      rw [filter_append_filter_not h, List.countP_eq_length_filter]

/-- How many have the property is also where those that have it end. -/
theorem lt_countP_iff {i : Nat} {a : α} (hi : l[i]? = some a) :
    i < l.countP p ↔ p a = true := by
  constructor
  · intro hlt
    have hmem : a ∈ l.filter p := by
      rw [filter_eq_take h]
      exact List.mem_of_getElem? ((List.getElem?_take_of_lt hlt).trans hi)
    exact (List.mem_filter.mp hmem).2
  · intro ha
    by_contra hle
    have hmem : a ∈ l.filter fun a => !p a := by
      rw [filter_not_eq_drop h]
      apply List.mem_of_getElem? (i := i - l.countP p)
      rw [List.getElem?_drop, Nat.add_sub_cancel' (Nat.le_of_not_lt hle), hi]
    simpa [ha] using (List.mem_filter.mp hmem).2

theorem find?_not_eq : l.find? (fun a => !p a) = l[l.countP p]? := by
  rw [← List.head?_filter, filter_not_eq_drop h, List.head?_drop]

theorem find?_reverse_eq :
    l.reverse.find? p = if l.countP p = 0 then none else l[l.countP p - 1]? := by
  rw [← List.head?_filter, List.filter_reverse, List.head?_reverse, filter_eq_take h]
  split
  case isTrue hzero => rw [hzero, List.take_zero, List.getLast?_nil]
  case isFalse hpos =>
    rw [List.getLast?_eq_getElem?, List.length_take_of_le List.countP_le_length,
      List.getElem?_take_of_lt (Nat.sub_one_lt hpos)]

end Prefix

/-- A list in the order of its keys, put together again from its parts. -/
theorem flatMap_filter_key [DecidableEq κ] {key : α → κ} {le : κ → κ → Prop}
    (antisymm : ∀ j k, le j k → le k j → j = k) {ks : List κ} (hks : ks.Pairwise le)
    (hnodup : ks.Nodup) {l : List α} (hl : l.Pairwise fun a b => le (key a) (key b))
    (hmem : ∀ a ∈ l, key a ∈ ks) : (ks.flatMap fun k => l.filter fun a => key a = k) = l := by
  induction ks generalizing l with
  | nil =>
    have hnil : l = [] := List.eq_nil_iff_forall_not_mem.mpr fun a ha => nomatch hmem a ha
    rw [hnil]
    rfl
  | cons k ks ih =>
    obtain ⟨hk, hks⟩ := List.pairwise_cons.mp hks
    obtain ⟨hnot, hnodup⟩ := List.nodup_cons.mp hnodup
    -- No key is less than the first, so what has the first key stands before all the rest.
    have hfirst : (l.filter fun a => key a = k) ++ (l.filter fun a => !decide (key a = k)) = l := by
      apply filter_append_filter_not
      apply hl.imp_of_mem
      intro a b ha _ hle hb
      rw [decide_eq_true_eq] at hb ⊢
      rcases List.mem_cons.mp (hmem a ha) with hak | hak
      · exact hak
      · exact antisymm (key a) k (hb ▸ hle) (hk _ hak)
    have hrest : (ks.flatMap fun j => l.filter fun a => key a = j) =
        l.filter fun a => !decide (key a = k) := by
      have hothers : ∀ a ∈ l.filter (fun a => !decide (key a = k)), key a ∈ ks := by
        intro a ha
        obtain ⟨hal, hne⟩ := List.mem_filter.mp ha
        rcases List.mem_cons.mp (hmem a hal) with hak | hak
        · simp [hak] at hne
        · exact hak
      have hparts := ih hks hnodup (hl.filter _) hothers
      refine Eq.trans (List.flatMap_congr fun j hj => ?_) hparts
      rw [List.filter_filter]
      apply List.filter_congr
      intro a _
      by_cases hj' : key a = j
      · have hne : j ≠ k := fun he => hnot (he ▸ hj)
        simp [hj', hne]
      · simp [hj']
    rw [List.flatMap_cons, hrest, hfirst]

theorem nodup_eraseDups [DecidableEq α] (l : List α) : l.eraseDups.Nodup := by
  induction h : l.length using Nat.strongRecOn generalizing l with
  | ind n ih =>
    cases l with
    | nil => exact List.nodup_nil
    | cons a l =>
      have hlt : (l.filter fun b => !b == a).length < n := by
        have hle := List.length_filter_le (fun b => !b == a) l
        rw [List.length_cons] at h
        omega
      rw [List.eraseDups_cons, List.nodup_cons]
      refine ⟨?_, ih _ hlt _ rfl⟩
      rw [List.mem_eraseDups, List.mem_filter]
      simp

end CommentTags.Sort
