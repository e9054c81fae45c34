import CommentTags.Document

/-!
What a scanner tells those who follow it.
-/
namespace CommentTags

inductive Event where
  | documentScanned (id : DocumentId) (count : Nat)
  | cacheInvalidated (id : DocumentId)
  | cacheCleared
  | tagsConfigured (active rejected : Nat)
  | fileSkipped (path : Path) (reason : String)
  | batchFinished (scanned skipped : Nat)
deriving DecidableEq, Repr

/-- The events that wait for a follower. -/
structure Feed where
  waiting : List Event
deriving DecidableEq, Repr

namespace Feed

/-- So many events can wait; when there are more the oldest are lost. -/
def capacity : Nat := 256

def empty : Feed := ⟨[]⟩

def push (f : Feed) (events : List Event) : Feed :=
  let all := f.waiting ++ events
  ⟨all.drop (all.length - capacity)⟩

end Feed

end CommentTags
