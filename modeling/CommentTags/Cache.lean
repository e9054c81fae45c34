import CommentTags.FoundTag
import CommentTags.Keyed

/-!
The tags that the latest scan of each document found.
-/
namespace CommentTags

structure Cache where
  entries : Keyed DocumentId (List FoundTag)
deriving DecidableEq

namespace Cache

def empty : Cache := ⟨.empty⟩

instance : Inhabited Cache := ⟨empty⟩

variable (c : Cache) (id : DocumentId)

def put (tags : List FoundTag) : Cache := ⟨c.entries.insert id tags⟩

/-- The tags of a document; none for a document without an entry. -/
def get : List FoundTag := (c.entries.get? id).getD []

def contains : Bool := c.entries.contains id

def erase : Cache := ⟨c.entries.erase id⟩

/-- Drops one entry or all of them. -/
def invalidate (id : Option DocumentId) : Cache :=
  match id with
  | some id => c.erase id
  | none => empty

/-- All entries one after the other. -/
def merged : List FoundTag := c.entries.entries.flatMap Prod.snd

def sorted : List FoundTag := c.merged.mergeSort FoundTag.le

/-- The documents with an entry, in increasing order. -/
def documents : List DocumentId := c.entries.keys.mergeSort (· ≤ ·)

def size : Nat := c.entries.size

def isEmpty : Bool := c.entries.isEmpty

end Cache

end CommentTags
