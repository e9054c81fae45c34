import CommentTags.Buffer
import CommentTags.Glob
import CommentTags.Path
import CommentTags.Settings

/-!
Why an operation on files, documents or tags fails.
-/
namespace CommentTags

inductive Failure where
  | fileNotFound (path : Path)
  | fileTooLarge (path : Path) (size limit : Nat)
  | file (failure : FileFailure)
  | buffer (error : BufferError)
  | tags (rejected : List RejectedTag)
  | glob (error : GlobError)
  | settings (error : SettingsError)
deriving DecidableEq, Repr

def Failure.message : Failure → String
  | fileNotFound p => s!"File not found: {p}"
  | fileTooLarge p size limit => s!"File too large: {p} ({size} bytes, limit {limit})"
  | file f => s!"IO error: {f.message}"
  | buffer e => s!"Buffer error: {e.message}"
  | tags rejected => s!"Tag error: {RejectedTag.summary rejected}"
  | glob e => s!"Invalid glob: {e.message}"
  | settings e => s!"Config error: {e.message}"

end CommentTags
