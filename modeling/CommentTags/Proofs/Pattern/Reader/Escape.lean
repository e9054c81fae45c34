import CommentTags.Pattern.Reader.Escape
import CommentTags.Proofs.Pattern.Reader.State

/-!
Escapes where more text follows.
-/
namespace CommentTags.Pattern.Reader

variable {tail : Text} {s : State}

end CommentTags.Pattern.Reader
