import CommentTags.Pattern.Reader
import CommentTags.Proofs.Pattern.Reader.Bracket

/-!
A pattern inside a group. What is a pattern by itself is read alike after an opening bracket, up
to the bracket that closes the group; then reading goes on around it.
-/
namespace CommentTags.Pattern.Reader

variable {tail : Text} {s : State}

namespace Opening

/-- The state in which reading goes on. -/
def state : Opening → State
  | flags s => s
  | group s => s

def followedBy (o : Opening) (tail : Text) : Opening :=
  match o with
  | flags s => flags (s.followedBy tail)
  | group s => group (s.followedBy tail)

end Opening

end CommentTags.Pattern.Reader
