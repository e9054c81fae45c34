import CommentTags.Proofs.Sort
import CommentTags.View.Tree

/-!
The order of cached tags. The flat list of all of them, by document and then by place, is what the
groups of the tree hold one after the other, as long as the labels of the groups are in the order
of the documents.
-/
namespace CommentTags

namespace FoundTag

theorem startsBefore_iff {a b : FoundTag} : a.startsBefore b ↔ a.range.start ≤ b.range.start :=
  decide_eq_true_iff

theorem startsBefore_trans (a b c : FoundTag) (hab : a.startsBefore b) (hbc : b.startsBefore c) :
    a.startsBefore c :=
  startsBefore_iff.mpr (Position.le_trans (startsBefore_iff.mp hab) (startsBefore_iff.mp hbc))

theorem startsBefore_total (a b : FoundTag) : a.startsBefore b || b.startsBefore a := by
  rw [Bool.or_eq_true, startsBefore_iff, startsBefore_iff]
  exact Position.le_total _ _

theorem le_iff {a b : FoundTag} :
    a.le b ↔ a.document < b.document ∨ a.document = b.document ∧ a.startsBefore b := by
  simp only [le, Bool.or_eq_true, Bool.and_eq_true, decide_eq_true_eq]

theorem le_of_document_eq {a b : FoundTag} (h : a.document = b.document) :
    a.le b = a.startsBefore b := by
  rw [Bool.eq_iff_iff, le_iff]
  constructor
  · rintro (hlt | ⟨-, hstart⟩)
    · exact (String.lt_irrefl _ (h ▸ hlt)).elim
    · exact hstart
  · exact fun hstart => .inr ⟨h, hstart⟩

theorem document_le_of_le {a b : FoundTag} (h : a.le b) : a.document ≤ b.document := by
  rcases le_iff.mp h with hlt | ⟨heq, -⟩
  · exact String.not_lt.mp (String.lt_asymm hlt)
  · exact heq ▸ String.le_refl _

theorem le_trans (a b c : FoundTag) (hab : a.le b) (hbc : b.le c) : a.le c := by
  rw [le_iff] at *
  rcases hab with hab | ⟨hab, hstart⟩
  · rcases hbc with hbc | ⟨hbc, -⟩
    · exact .inl (String.lt_trans hab hbc)
    · exact .inl (hbc ▸ hab)
  · rcases hbc with hbc | ⟨hbc, hstart'⟩
    · exact .inl (hab ▸ hbc)
    · exact .inr ⟨hab.trans hbc, startsBefore_trans a b c hstart hstart'⟩

theorem le_total (a b : FoundTag) : a.le b || b.le a := by
  rw [Bool.or_eq_true, le_iff, le_iff]
  by_cases hd : a.document = b.document
  · rcases Bool.or_eq_true_iff.mp (startsBefore_total a b) with h | h
    · exact .inl (.inr ⟨hd, h⟩)
    · exact .inr (.inr ⟨hd.symm, h⟩)
  · by_cases hlt : a.document < b.document
    · exact .inl (.inl hlt)
    · have hle : b.document ≤ a.document := String.not_lt.mp hlt
      have hlt' : b.document < a.document :=
        String.not_le.mp fun hle' => hd (String.le_antisymm hle' hle)
      exact .inr (.inl hlt')

end FoundTag

namespace Cache

variable (c : Cache)

theorem sorted_perm : c.sorted.Perm (c.entries.entries.flatMap Prod.snd) :=
  List.mergeSort_perm _ _

theorem pairwise_sorted : c.sorted.Pairwise fun a b =>
    a.document < b.document ∨ a.document = b.document ∧ a.range.start ≤ b.range.start := by
  apply (List.pairwise_mergeSort FoundTag.le_trans FoundTag.le_total c.merged).imp
  intro a b hle
  rwa [FoundTag.le_iff, FoundTag.startsBefore_iff] at hle

/-- Tags that start at one place of one document are in the order of the entries. -/
theorem filter_sorted (id : DocumentId) (p : Position) :
    (c.sorted.filter fun t => t.document = id ∧ t.range.start = p) =
      (c.entries.entries.flatMap Prod.snd).filter fun t =>
        t.document = id ∧ t.range.start = p := by
  apply Sort.filter_mergeSort_eq_filter FoundTag.le_trans FoundTag.le_total
  intro a b ha hb
  obtain ⟨hd, hstart⟩ := of_decide_eq_true ha
  obtain ⟨hd', hstart'⟩ := of_decide_eq_true hb
  rw [FoundTag.le_iff, FoundTag.startsBefore_iff, hd, hd', hstart, hstart']
  exact .inr ⟨rfl, Position.le_refl p⟩

end Cache

namespace TagTree

variable {tags : List FoundTag} {root : Option Path}

theorem mem_documentsOf {id : DocumentId} :
    id ∈ documentsOf tags ↔ ∃ t ∈ tags, t.document = id := by
  rw [documentsOf, List.mem_mergeSort, List.mem_eraseDups, List.mem_map]

theorem nodup_documentsOf (tags : List FoundTag) : (documentsOf tags).Nodup :=
  (List.mergeSort_perm _ _).nodup_iff.mpr (Sort.nodup_eraseDups _)

theorem pairwise_documentsOf (tags : List FoundTag) :
    (documentsOf tags).Pairwise fun i j => i ≤ j :=
  Sort.pairwise_le_mergeSort _

/-- Each document has the part of the sorted list that belongs to it. -/
theorem items_group (root : Option Path) (tags : List FoundTag) (id : DocumentId) :
    (group root tags id).items =
      ((tags.mergeSort FoundTag.le).filter fun t => t.document = id).map TreeItem.ofTag := by
  have hle : ∀ a ∈ tags.filter (fun t => t.document = id),
      ∀ b ∈ tags.filter (fun t => t.document = id), FoundTag.startsBefore a b = a.le b := by
    intro a ha b hb
    have hda : a.document = id := by simpa using (List.mem_filter.mp ha).2
    have hdb : b.document = id := by simpa using (List.mem_filter.mp hb).2
    exact (FoundTag.le_of_document_eq (hda.trans hdb.symm)).symm
  rw [Sort.filter_mergeSort FoundTag.le_trans FoundTag.le_total, ← Sort.mergeSort_congr hle]
  rfl

/-- The groups are those of the documents in their order if the labels are in that order. -/
theorem groups_ofTags
    (h : (documentsOf tags).Pairwise fun i j => label root i ≤ label root j) :
    (ofTags root tags).groups = (documentsOf tags).map (group root tags) := by
  apply List.mergeSort_of_pairwise
  rw [List.pairwise_map]
  exact h.imp fun hle => decide_eq_true hle

/-- The groups of the documents in their order hold the sorted list. -/
theorem items_groups (root : Option Path) (tags : List FoundTag) :
    ((documentsOf tags).map (group root tags)).flatMap TreeGroup.items =
      (tags.mergeSort FoundTag.le).map TreeItem.ofTag := by
  have hsorted := List.pairwise_mergeSort FoundTag.le_trans FoundTag.le_total tags
  have hdocuments : (tags.mergeSort FoundTag.le).Pairwise
      fun a b => a.document ≤ b.document := hsorted.imp FoundTag.document_le_of_le
  have hmem : ∀ t ∈ tags.mergeSort FoundTag.le, t.document ∈ documentsOf tags :=
    fun t ht => mem_documentsOf.mpr ⟨t, List.mem_mergeSort.mp ht, rfl⟩
  have hparts := Sort.flatMap_filter_key (fun _ _ => String.le_antisymm)
    (pairwise_documentsOf tags) (nodup_documentsOf tags) hdocuments hmem
  rw [List.flatMap_map]
  simp only [items_group]
  rw [← List.map_flatMap, hparts]

theorem items_ofTags
    (h : (documentsOf tags).Pairwise fun i j => label root i ≤ label root j) :
    ((ofTags root tags).groups.flatMap TreeGroup.items) =
      (tags.mergeSort FoundTag.le).map TreeItem.ofTag := by
  rw [groups_ofTags h, items_groups]

end TagTree

end CommentTags
