import CommentTags.Path

/-!
The files of a folder.
-/
namespace CommentTags

/-- A file that is left out, and why. -/
structure SkippedFile where
  path : Path
  reason : String
deriving DecidableEq, Repr

/-- The files of a folder, and what could not be read of it. -/
structure Listing where
  files : List Path
  unreadable : List SkippedFile
deriving DecidableEq, Repr

namespace Listing

def empty : Listing := ⟨[], []⟩

def ofFile (p : Path) : Listing := ⟨[p], []⟩

def ofUnreadable (p : Path) (reason : String) : Listing := ⟨[], [⟨p, reason⟩]⟩

instance : Append Listing where
  append a b := ⟨a.files ++ b.files, a.unreadable ++ b.unreadable⟩

/-- One listing after the other. -/
def concat (ls : List Listing) : Listing :=
  ⟨ls.flatMap Listing.files, ls.flatMap Listing.unreadable⟩

end Listing

end CommentTags
