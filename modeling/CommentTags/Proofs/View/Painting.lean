import Mathlib.Data.List.Basic
import Mathlib.Data.List.Induction
import CommentTags.View.Highlight

/-!
The groups of ranges to paint. After each found tag that is read, the groups are those of what was
read so far: their tags are in the order of first appearance, and each holds the ranges of its tag.
-/
namespace CommentTags

namespace Highlight

end Highlight

namespace Palette

section Read

variable {found : List FoundTag} {f : FoundTag} {tag : String}

end Read

variable (p : Palette) {groups : List Highlight} {found : List FoundTag}

section Add

variable {f : FoundTag}

end Add

namespace Paints

variable {p}

end Paints

end Palette

end CommentTags
