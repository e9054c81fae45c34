import CommentTags.Cache

/-!
Tags grouped by document, ready to be shown.
-/
namespace CommentTags

structure TreeItem where
  label : Text
  description : String
  tooltip : Text
  tag : FoundTag
deriving DecidableEq, Repr

structure TreeGroup where
  label : String
  description : String
  document : DocumentId
  items : List TreeItem
deriving DecidableEq, Repr

structure TagTree where
  groups : List TreeGroup
deriving DecidableEq, Repr

namespace TreeItem

/-- Longer texts are cut in labels. -/
def previewLength : Nat := 80

def truncated (t : Text) : Text :=
  if previewLength < t.length then t.take previewLength ++ ['…'] else t

/-- A tag that nothing follows is shown by its line. -/
def ofTag (tag : FoundTag) : TreeItem :=
  let line := Text.trim tag.lineText
  let preview := if tag.annotation.isEmpty then line else tag.annotation
  { label := s!"{tag.tag}: ".toList ++ truncated preview
    description := s!":{tag.line + 1}"
    tooltip := s!"{tag.document}:{tag.line + 1}\n".toList ++ line
    tag }

end TreeItem

namespace TagTree

/-- A document below the root is shown by its path from there. -/
def label (root : Option Path) (id : DocumentId) : String :=
  (root.bind (Path.relativeTo? id)).getD id

/-- The documents that have tags, each once, in increasing order. -/
def documentsOf (tags : List FoundTag) : List DocumentId :=
  ((tags.map FoundTag.document).eraseDups).mergeSort (· ≤ ·)

def group (root : Option Path) (tags : List FoundTag) (id : DocumentId) : TreeGroup :=
  let own := (tags.filter fun t => t.document = id).mergeSort FoundTag.startsBefore
  ⟨label root id, s!"({own.length})", id, own.map TreeItem.ofTag⟩

/-- Groups are ordered by label, and groups with one label by document. -/
def ofTags (root : Option Path) (tags : List FoundTag) : TagTree :=
  ⟨((documentsOf tags).map (group root tags)).mergeSort fun a b => a.label ≤ b.label⟩

def ofCache (root : Option Path) (c : Cache) : TagTree := ofTags root c.merged

variable (t : TagTree)

def tagCount : Nat := (t.groups.flatMap fun g => g.items).length

def isEmpty : Bool := t.groups.isEmpty

/-- A line for each group, with a line for each of its tags below it. -/
def display : Text :=
  t.groups.flatMap fun g =>
    s!"{g.label} {g.description}\n".toList ++
      g.items.flatMap fun i => ' ' :: ' ' :: i.label ++ s!" {i.description}\n".toList

end TagTree

end CommentTags
