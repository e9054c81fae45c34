import CommentTags.FoundTag

/-!
Jumping from tag to tag. A cursor that touches a tag stands on it; both directions go round.
-/
namespace CommentTags.Navigation

def byStart (tags : List FoundTag) : List FoundTag :=
  tags.mergeSort FoundTag.startsBefore

/-- The place, in the order of starts, of the first tag under the cursor. -/
def under? (sorted : List FoundTag) (p : Position) : Option Nat :=
  sorted.findIdx? fun t => t.range.touches p

/-- The tag after the one under the cursor, else the first that starts after it, else the first
of all. -/
def next? (tags : List FoundTag) (p : Position) : Option FoundTag :=
  let sorted := byStart tags
  match under? sorted p with
  | some i => sorted[(i + 1) % sorted.length]?
  | none => (sorted.find? fun t => p < t.range.start).or sorted.head?

/-- The tag before the one under the cursor, else the last that starts before it, else the last
of all. -/
def previous? (tags : List FoundTag) (p : Position) : Option FoundTag :=
  let sorted := byStart tags
  match under? sorted p with
  | some i => sorted[(i + sorted.length - 1) % sorted.length]?
  | none => (sorted.reverse.find? fun t => t.range.start < p).or sorted.getLast?

end CommentTags.Navigation
