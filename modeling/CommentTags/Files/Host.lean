import CommentTags.Files.Access

/-!
The files that a program finds, and the folders that it is started with.
-/
namespace CommentTags

structure Host where
  files : FileTree
  workingFolder : Path
  configFolder : Path
deriving DecidableEq, Inhabited

namespace Host

variable (h : Host)

/-- The list of files that no repository of the user holds. -/
def globalIgnore : Path := h.configFolder.join "git/ignore"

def userSettings : Path := h.configFolder.join "tagscan/config.toml"

/-- A path as the working folder sees it. -/
def absolute (p : Path) : Path := h.workingFolder.join p

def withFiles (files : FileTree) : Host := { h with files }

end Host

end CommentTags
