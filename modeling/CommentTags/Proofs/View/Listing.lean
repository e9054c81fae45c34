import Mathlib.Algebra.GroupWithZero.Nat
import CommentTags.Proofs.Files.Below
import CommentTags.Proofs.View.Order

/-!
Tree and list of the cached tags. The list has the tags of all entries by document and by place. The
tree holds them in its order when documents are shown by their ids, and also when all of them are
below the root and shown from there.
-/
namespace CommentTags.TagTree

variable {root : Option Path} {folder : Path} {c : Cache}

/-- The groups of the tree hold, one after the other, the sorted tags of the cache. These are the
tags of its entries, as often as they occur there, by document and then by start; what that leaves
open is as in the entries. The tree counts them all. -/
structure Lists (t : TagTree) (c : Cache) : Prop where
  tags : (t.groups.flatMap TreeGroup.items).map TreeItem.tag = c.sorted
  perm : c.sorted.Perm (c.entries.entries.flatMap Prod.snd)
  ascending : c.sorted.Pairwise fun a b =>
    a.document < b.document ∨ a.document = b.document ∧ a.range.start ≤ b.range.start
  stable : ∀ id p, (c.sorted.filter fun t => t.document = id ∧ t.range.start = p) =
    (c.entries.entries.flatMap Prod.snd).filter fun t => t.document = id ∧ t.range.start = p
  tagCount : t.tagCount = (c.entries.entries.map fun e => e.2.length).sum

theorem lists_of_labels
    (h : (documentsOf c.merged).Pairwise fun i j => label root i ≤ label root j) :
    (ofCache root c).Lists c := by
  have hitems : (ofCache root c).groups.flatMap TreeGroup.items = c.sorted.map TreeItem.ofTag :=
    items_ofTags h
  constructor
  case tags =>
    have htag : TreeItem.tag ∘ TreeItem.ofTag = id := rfl
    rw [hitems, List.map_map, htag, List.map_id]
  case perm => exact c.sorted_perm
  case ascending => exact c.pairwise_sorted
  case stable => exact c.filter_sorted
  case tagCount =>
    rw [tagCount, hitems, List.length_map, c.sorted_perm.length_eq, List.length_flatMap]

/-- Below one root, a document comes before another as its label comes before the other's. -/
theorem label_le_label {i j : DocumentId} (hi : Path.IsBelow folder i)
    (hj : Path.IsBelow folder j) (hle : i ≤ j) : label (some folder) i ≤ label (some folder) j := by
  obtain ⟨start, hstart⟩ := Path.exists_relativeTo?_of_isBelow folder
  obtain ⟨first, hfirst, rfl⟩ := hstart i hi
  obtain ⟨second, hsecond, rfl⟩ := hstart j hj
  simp only [label, Option.bind_some, hfirst, hsecond, Option.getD_some]
  exact Path.le_of_append_le_append hle

/-- A document that is not below the folder is its own label, and can come first by it. -/
example : "/work/b.rs" < "/x/a.rs" ∧
    label (some "/work") "/x/a.rs" < label (some "/work") "/work/b.rs" := by
  decide

/-- Documents as ids, or all of them from a folder that they are below. -/
theorem lists_ofCache (c : Cache) : (ofCache none c).Lists c ∧
    ∀ folder : Path,
      (∀ e ∈ c.entries.entries, ∀ t ∈ e.2, Path.IsBelow folder t.document) →
        (ofCache (some folder) c).Lists c := by
  have hdocuments := pairwise_documentsOf c.merged
  constructor
  · exact lists_of_labels hdocuments
  · intro folder hbelow
    have hmerged : ∀ id ∈ documentsOf c.merged, Path.IsBelow folder id := by
      intro id hid
      obtain ⟨t, ht, rfl⟩ := mem_documentsOf.mp hid
      obtain ⟨e, he, hte⟩ := List.mem_flatMap.mp ht
      exact hbelow e he t hte
    apply lists_of_labels
    apply hdocuments.imp_of_mem
    intro i j hi hj hle
    exact label_le_label (hmerged i hi) (hmerged j hj) hle

/-- A tag on a line of a document that holds nothing else. -/
def noteAt (id : DocumentId) (line : Nat) : FoundTag :=
  ⟨id, .onLine line 3 7, ['/', '/', ' ', 'T', 'O', 'D', 'O'], "TODO", [], line⟩

/-- Two files below one folder, the later of them scanned first. -/
def scannedBackwards : Cache :=
  (Cache.empty.put "/work/lib/b.rs" [noteAt "/work/lib/b.rs" 4, noteAt "/work/lib/b.rs" 9]).put
    "/work/a.rs" [noteAt "/work/a.rs" 0]

theorem lists_scannedBackwards :
    (∀ e ∈ scannedBackwards.entries.entries, ∀ t ∈ e.2, Path.IsBelow "/work" t.document) ∧
      (ofCache (some "/work") scannedBackwards).Lists scannedBackwards ∧
      (ofCache (some "/work") scannedBackwards).tagCount = 3 := by
  have hbelow : ∀ e ∈ scannedBackwards.entries.entries, ∀ t ∈ e.2,
      Path.IsBelow "/work" t.document := by
    have hentries : scannedBackwards.entries.entries =
        [("/work/lib/b.rs", [noteAt "/work/lib/b.rs" 4, noteAt "/work/lib/b.rs" 9]),
          ("/work/a.rs", [noteAt "/work/a.rs" 0])] := by decide
    have hb : Path.IsBelow "/work" "/work/lib/b.rs" := ⟨"lib/b.rs", by decide, by decide⟩
    have ha : Path.IsBelow "/work" "/work/a.rs" := ⟨"a.rs", by decide, by decide⟩
    rw [hentries]
    simp only [List.forall_mem_cons]
    exact ⟨⟨hb, hb, fun _ h => nomatch h⟩, ⟨ha, fun _ h => nomatch h⟩, fun _ h => nomatch h⟩
  have hlists := (lists_ofCache scannedBackwards).2 "/work" hbelow
  have hcount : (scannedBackwards.entries.entries.map fun e => e.2.length).sum = 3 := by decide
  exact ⟨hbelow, hlists, hlists.tagCount.trans hcount⟩

end CommentTags.TagTree
