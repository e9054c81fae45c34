import CommentTags.Proofs.Pattern.Reader.Groups
import CommentTags.Proofs.Tag.Annotation

/-!
The text of a tag's own pattern with the separator and the annotation written after it. Read as
one pattern, it is the tag's own pattern followed by those two.
-/
namespace CommentTags

namespace Pattern

end Pattern

namespace Pattern.Reader

end Pattern.Reader

namespace Pattern

open Reader

end Pattern

end CommentTags
