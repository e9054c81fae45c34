/-!
Why a file cannot be reached, read or written.
-/
namespace CommentTags

inductive FileFailure where
  | notFound
  | alreadyExists
  | notADirectory
  | isADirectory
  | tooManyLinks
  | notUtf8
deriving DecidableEq, Repr, Inhabited

/-- The system's text for the failure, with its error number if it has one. -/
def FileFailure.message : FileFailure → String
  | notFound => "No such file or directory (os error 2)"
  | alreadyExists => "File exists (os error 17)"
  | notADirectory => "Not a directory (os error 20)"
  | isADirectory => "Is a directory (os error 21)"
  | tooManyLinks => "Too many levels of symbolic links (os error 40)"
  | notUtf8 => "stream did not contain valid UTF-8"

end CommentTags
