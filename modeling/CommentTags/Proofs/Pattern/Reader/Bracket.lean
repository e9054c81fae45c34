import CommentTags.Pattern.Reader.Bracket
import CommentTags.Proofs.Pattern.Reader.Escape

/-!
Classes in brackets where more text follows.
-/
namespace CommentTags.Pattern.Reader

variable {tail : Text} {s : State}

end CommentTags.Pattern.Reader
