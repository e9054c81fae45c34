import Mathlib.Data.List.Nodup
import CommentTags.Proofs.Scanner.CacheOrder
import CommentTags.Proofs.View.Order

/-!
Caches with the same entries in another order. As long as the tags of each entry belong to its
document and start one after the other, no two tags compare as equal; so the sorted list and the
tree do not depend on the order in which the entries come.
-/
namespace CommentTags

namespace FoundTag

/-- In an earlier document, or further up in the same one. -/
def Precedes (a b : FoundTag) : Prop :=
  a.document < b.document ∨ a.document = b.document ∧ a.range.start < b.range.start

/-- No two tags start at one place of one document. -/
def Differs (a b : FoundTag) : Prop := a.document = b.document → a.range.start ≠ b.range.start

theorem Differs.symm {a b : FoundTag} (h : a.Differs b) : b.Differs a :=
  fun hd hs => h hd.symm hs.symm

theorem Differs.precedes {a b : FoundTag} (h : a.Differs b) (hle : a.le b) : a.Precedes b := by
  rcases le_iff.mp hle with hlt | ⟨hd, hstart⟩
  · exact .inl hlt
  · have hnot : ¬b.range.start ≤ a.range.start := fun hback =>
      h hd (Position.le_antisymm (startsBefore_iff.mp hstart) hback)
    exact .inr ⟨hd, Position.not_le.mp hnot⟩

theorem Precedes.asymm {a b : FoundTag} (hab : a.Precedes b) : ¬b.Precedes a := by
  intro hba
  rcases hab with hab | ⟨hd, hab⟩ <;> rcases hba with hba | ⟨hd', hba⟩
  · exact String.lt_asymm hab hba
  · exact String.lt_irrefl _ (hd' ▸ hab)
  · exact String.lt_irrefl _ (hd ▸ hba)
  · rw [Position.lt_def] at hab hba
    omega

end FoundTag

namespace Cache

variable {c c' : Cache}

/-- The same entries, perhaps in another order. -/
def Reorders (c c' : Cache) : Prop := c.entries.entries.Perm c'.entries.entries

/-- The entries backwards. -/
def reversed (c : Cache) : Cache where
  entries.entries := c.entries.entries.reverse
  entries.nodup_keys := by
    rw [List.map_reverse, List.nodup_reverse]
    exact c.entries.nodup_keys

theorem reversed_reorders (c : Cache) : c.reversed.Reorders c := List.reverse_perm _

theorem keys_reversed (c : Cache) : c.reversed.entries.keys = c.entries.keys.reverse :=
  List.map_reverse

theorem Reorders.isOrdered (h : c.Reorders c') (ho : c'.IsOrdered) : c.IsOrdered :=
  fun e he => ho e (h.mem_iff.mp he)

theorem Reorders.merged (h : c.Reorders c') : c.merged.Perm c'.merged := h.flatMap_right _

theorem IsOrdered.pairwise_merged (h : c.IsOrdered) : c.merged.Pairwise FoundTag.Differs := by
  rw [Cache.merged, List.pairwise_flatMap]
  -- Tags of one entry differ in their starts, tags of two entries in their documents.
  constructor
  · intro e he
    refine (h e he).2.imp fun hlt _ heq => ?_
    rw [heq, Position.lt_def] at hlt
    omega
  · have hkeys : c.entries.entries.Pairwise fun e f => e.1 ≠ f.1 :=
      List.pairwise_map.mp c.entries.nodup_keys
    apply hkeys.imp_of_mem
    intro e f he hf hne a ha b hb hd
    have hsame : e.1 = f.1 := by rw [← (h e he).1 a ha, ← (h f hf).1 b hb, hd]
    exact (hne hsame).elim

theorem IsOrdered.pairwise_sorted (h : c.IsOrdered) : c.sorted.Pairwise FoundTag.Precedes := by
  have hperm : c.sorted.Perm c.merged := c.sorted_perm
  have hdiffers : c.sorted.Pairwise FoundTag.Differs :=
    (hperm.pairwise_iff FoundTag.Differs.symm).mpr h.pairwise_merged
  have hle : c.sorted.Pairwise fun a b => a.le b :=
    List.pairwise_mergeSort FoundTag.le_trans FoundTag.le_total _
  exact hdiffers.imp₂ (fun _ _ hd hl => hd.precedes hl) hle

theorem IsOrdered.count_sorted (h : c.IsOrdered) {t : FoundTag} (ht : t ∈ c.merged) :
    c.sorted.count t = 1 := by
  have hnodup : c.sorted.Nodup := by
    apply h.pairwise_sorted.imp
    rintro a b hlt rfl
    exact hlt.asymm hlt
  exact List.nodup_iff_count_eq_one.mp hnodup t (List.mem_mergeSort.mpr ht)

theorem Reorders.sorted (h : c.Reorders c') (ho : c'.IsOrdered) : c.sorted = c'.sorted := by
  have hperm : c.sorted.Perm c'.sorted :=
    c.sorted_perm.trans (h.merged.trans c'.sorted_perm.symm)
  exact hperm.eq_of_pairwise (fun a b _ _ hab hba => (hab.asymm hba).elim)
    (h.isOrdered ho).pairwise_sorted ho.pairwise_sorted

end Cache

namespace TagTree

variable {tags tags' : List FoundTag} {c c' : Cache}

theorem documentsOf_congr (h : tags.Perm tags') : documentsOf tags = documentsOf tags' := by
  have hperm : (documentsOf tags).Perm (documentsOf tags') := by
    rw [List.perm_ext_iff_of_nodup (nodup_documentsOf _) (nodup_documentsOf _)]
    intro id
    rw [mem_documentsOf, mem_documentsOf]
    exact exists_congr fun t => and_congr_left fun _ => h.mem_iff
  exact hperm.eq_of_pairwise (fun _ _ _ _ => String.le_antisymm) (pairwise_documentsOf _)
    (pairwise_documentsOf _)

/-- A group is made of its items. -/
theorem group_eq (root : Option Path) (tags : List FoundTag) (id : DocumentId) :
    group root tags id =
      ⟨label root id, s!"({(group root tags id).items.length})", id, (group root tags id).items⟩ := by
  simp only [group, List.length_map]

theorem ofTags_congr (root : Option Path) (h : tags.Perm tags')
    (hsorted : tags.mergeSort FoundTag.le = tags'.mergeSort FoundTag.le) :
    ofTags root tags = ofTags root tags' := by
  have hgroup : group root tags = group root tags' := by
    funext id
    rw [group_eq, group_eq root tags', items_group, items_group, hsorted]
  rw [ofTags, ofTags, documentsOf_congr h, hgroup]

theorem ofCache_reorders (root : Option Path) (h : c.Reorders c') (ho : c'.IsOrdered) :
    ofCache root c = ofCache root c' :=
  ofTags_congr root h.merged (h.sorted ho)

end TagTree

namespace Scanner

variable {s : Scanner}

/-- The cache after any run from an empty one. All orders of its entries make one list and, for
each root, one tree. The list goes strictly from place to place, and has each tag of each entry
exactly once and no other. -/
theorem run_enumeration (h : s.cache = .empty) (actions : List Action) :
    let cache := (s.run actions).scanner.cache
    (∀ c₁ c₂ : Cache, c₁.Reorders cache → c₂.Reorders cache →
      c₁.sorted = c₂.sorted ∧ ∀ root, TagTree.ofCache root c₁ = TagTree.ofCache root c₂) ∧
    cache.sorted.Pairwise FoundTag.Precedes ∧
    (∀ e ∈ cache.entries.entries, ∀ t ∈ e.2, cache.sorted.count t = 1) ∧
    ∀ t ∈ cache.sorted, ∃ e ∈ cache.entries.entries, t ∈ e.2 := by
  intro cache
  have ho : cache.IsOrdered := by
    apply isOrdered_run
    rw [h]
    exact isOrdered_empty
  refine ⟨?_, ho.pairwise_sorted, ?_, ?_⟩
  · intro c₁ c₂ h₁ h₂
    refine ⟨(h₁.sorted ho).trans (h₂.sorted ho).symm, fun root => ?_⟩
    rw [TagTree.ofCache_reorders root h₁ ho, TagTree.ofCache_reorders root h₂ ho]
  · intro e he t ht
    exact ho.count_sorted (List.mem_flatMap.mpr ⟨e, he, ht⟩)
  · intro t ht
    exact List.mem_flatMap.mp (List.mem_mergeSort.mp ht)

/-- Two files, of which the first is scanned again after the second. -/
def twiceScanned : List Action :=
  let a := (Document.ofText "a.py" "python" "x = 1 # TODO: name it\n# FIXME".toList).source
  let b := (Document.ofText "b.py" "python" "# TODO".toList).source
  [.step (.scan a), .step (.scan b), .step (.scan a)]

theorem run_enumeration_twiceScanned :
    let cache := (standard.run twiceScanned).scanner.cache
    cache.entries.keys = ["b.py", "a.py"] ∧ cache.reversed.entries.keys = ["a.py", "b.py"] ∧
      cache.reversed.sorted = cache.sorted ∧
      TagTree.ofCache none cache.reversed = TagTree.ofCache none cache := by
  intro cache
  have hkeys : cache.entries.keys = ["b.py", "a.py"] := by decide +kernel
  have hback : cache.reversed.entries.keys = ["a.py", "b.py"] := by
    rw [Cache.keys_reversed, hkeys]
    rfl
  obtain ⟨hsame, -⟩ := run_enumeration (s := standard) rfl twiceScanned
  obtain ⟨hsorted, htree⟩ := hsame cache.reversed cache cache.reversed_reorders (List.Perm.refl _)
  exact ⟨hkeys, hback, hsorted, htree none⟩

end Scanner

end CommentTags
