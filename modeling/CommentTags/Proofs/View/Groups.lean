import CommentTags.Proofs.View.Order

/-!
The tree as a partition. Its groups belong to distinct documents, hold all tags of these in the
order of their starts, and stand in the order of their labels. Both sorts are stable: tags that
start at one place keep the order of the list, and groups with one label that of the documents.
-/
namespace CommentTags

/-- What the group says of its document, whose tags are among the given ones. -/
structure TreeGroup.Shows (g : TreeGroup) (root : Option Path) (tags : List FoundTag) : Prop where
  label : g.label = TagTree.label root g.document
  description : g.description = s!"({g.items.length})"
  items : g.items = (g.items.map TreeItem.tag).map TreeItem.ofTag
  nonempty : g.items ≠ []
  perm : (g.items.map TreeItem.tag).Perm (tags.filter fun t => t.document = g.document)
  ascending : (g.items.map TreeItem.tag).Pairwise fun a b => a.range.start ≤ b.range.start
  stable : ∀ p, ((g.items.map TreeItem.tag).filter fun t => t.range.start = p) =
    (tags.filter fun t => t.document = g.document).filter fun t => t.range.start = p

namespace TagTree

variable {tags : List FoundTag} {id : DocumentId}

theorem pairwise_lt_documentsOf (tags : List FoundTag) :
    (documentsOf tags).Pairwise fun i j => i < j :=
  Sort.pairwise_lt_mergeSort (Sort.nodup_eraseDups _)

theorem tags_group (root : Option Path) (tags : List FoundTag) (id : DocumentId) :
    (group root tags id).items.map TreeItem.tag =
      (tags.filter fun t => t.document = id).mergeSort FoundTag.startsBefore := by
  have htag : TreeItem.tag ∘ TreeItem.ofTag = fun t => t := rfl
  rw [group, List.map_map, htag, List.map_id']

/-- Tags that start at one place are in the order of the list. -/
theorem filter_start_mergeSort (l : List FoundTag) (p : Position) :
    ((l.mergeSort FoundTag.startsBefore).filter fun t => t.range.start = p) =
      l.filter fun t => t.range.start = p := by
  apply Sort.filter_mergeSort_eq_filter FoundTag.startsBefore_trans FoundTag.startsBefore_total
  intro a b ha hb
  rw [FoundTag.startsBefore_iff, of_decide_eq_true ha, of_decide_eq_true hb]
  exact Position.le_refl p

theorem shows_group (root : Option Path) (h : id ∈ documentsOf tags) :
    (group root tags id).Shows root tags := by
  have htags := tags_group root tags id
  have hsorted : ((tags.filter fun t => t.document = id).mergeSort FoundTag.startsBefore).Pairwise
      fun a b => a.startsBefore b :=
    List.pairwise_mergeSort FoundTag.startsBefore_trans FoundTag.startsBefore_total _
  constructor
  case label => rfl
  case description => rw [group, List.length_map]
  case items => rw [htags]; rfl
  case nonempty =>
    obtain ⟨t, ht, hid⟩ := mem_documentsOf.mp h
    have hmem : t ∈ (group root tags id).items.map TreeItem.tag := by
      rw [htags, List.mem_mergeSort, List.mem_filter]
      exact ⟨ht, decide_eq_true hid⟩
    intro hnil
    rw [hnil] at hmem
    cases hmem
  case perm =>
    rw [htags]
    exact List.mergeSort_perm _ _
  case ascending =>
    rw [htags]
    exact hsorted.imp FoundTag.startsBefore_iff.mp
  case stable =>
    intro p
    rw [htags]
    exact filter_start_mergeSort _ p

/-- By label, and by document where labels are the same. -/
def Precedes (g h : TreeGroup) : Prop :=
  g.label < h.label ∨ g.label = h.label ∧ g.document < h.document

theorem groups_perm (root : Option Path) (tags : List FoundTag) :
    (ofTags root tags).groups.Perm ((documentsOf tags).map (group root tags)) :=
  List.mergeSort_perm _ _

theorem pairwise_groups (root : Option Path) (tags : List FoundTag) :
    (ofTags root tags).groups.Pairwise Precedes := by
  have hdocuments : ((documentsOf tags).map (group root tags)).Pairwise
      fun g h => g.document < h.document :=
    List.pairwise_map.mpr (pairwise_lt_documentsOf tags)
  have hstable : (ofTags root tags).groups.Pairwise fun g h =>
      decide (g.label ≤ h.label) = true ∧
        (decide (h.label ≤ g.label) = true → g.document < h.document) :=
    Sort.pairwise_mergeSort_stable (by simpa using fun a b c => String.le_trans)
      (by simpa using fun a b => String.le_total _ _) hdocuments
  apply hstable.imp
  intro g h hgh
  rcases Sort.lt_or_eq_of_le (of_decide_eq_true hgh.1) with hlt | heq
  · exact .inl hlt
  · exact .inr ⟨heq, hgh.2 (decide_eq_true (heq ▸ String.le_refl _))⟩

theorem documents_groups (root : Option Path) (tags : List FoundTag) :
    ((ofTags root tags).groups.map TreeGroup.document).Perm (documentsOf tags) := by
  have hdocument : TreeGroup.document ∘ group root tags = fun i => i := rfl
  have hperm := (groups_perm root tags).map TreeGroup.document
  rwa [List.map_map, hdocument, List.map_id'] at hperm

theorem tagCount_ofTags (root : Option Path) (tags : List FoundTag) :
    (ofTags root tags).tagCount = tags.length := by
  have hperm := (groups_perm root tags).flatMap_right TreeGroup.items
  rw [tagCount, hperm.length_eq, items_groups, List.length_map, List.length_mergeSort]

/-- There is one group for each document that has tags, also where two of them have one label. A
group holds the tags of its document as often as they occur, by their starts and otherwise in the
order of the list, and tells their number. Groups are ordered by label, and those with one label by
document; together they hold as many tags as there are. -/
theorem ofTags_partition (root : Option Path) (tags : List FoundTag) :
    let t := ofTags root tags
    (t.groups.map TreeGroup.document).Nodup ∧
    (∀ id, id ∈ t.groups.map TreeGroup.document ↔ ∃ tag ∈ tags, tag.document = id) ∧
    (∀ g ∈ t.groups, g.Shows root tags) ∧
    t.groups.Pairwise Precedes ∧
    t.tagCount = tags.length := by
  intro t
  have hdocuments := documents_groups root tags
  refine ⟨hdocuments.nodup_iff.mpr (nodup_documentsOf tags), ?_, ?_, pairwise_groups root tags,
    tagCount_ofTags root tags⟩
  · intro id
    rw [hdocuments.mem_iff, mem_documentsOf]
  · intro g hg
    obtain ⟨id, hid, rfl⟩ := List.mem_map.mp ((groups_perm root tags).mem_iff.mp hg)
    exact shows_group root hid

/-- A file below the root and one that is named as the root sees it have the same label. -/
example : label (some "/ws") "/ws/a.rs" = label (some "/ws") "a.rs" := by decide

end TagTree

end CommentTags
