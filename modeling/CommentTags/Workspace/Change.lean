import CommentTags.Workspace

/-!
Bringing what is kept of a file up to date when the file changes.
-/
namespace CommentTags

inductive ChangeKind where
  | created
  | modified
  | deleted
deriving DecidableEq, Repr

structure FileChange where
  kind : ChangeKind
  path : Path
deriving DecidableEq, Repr

namespace Workspace

variable (w : Workspace)

/-- Only files that a scan of all would list now are scanned; what is kept of any other is
dropped. The answer tells whether anything was done. -/
def apply (t : FileTree) (candidates : List Path) (s : Scanner) (change : FileChange) :
    Scanner.Outcome Bool :=
  let p := change.path
  let isGone := change.kind = .deleted || !t.isFile p
  if isGone || !candidates.any (Path.same p) then
    if s.cache.contains p then
      let o := s.invalidate (some p)
      ⟨true, o.scanner, o.events⟩
    else ⟨false, s, []⟩
  else
    match w.openFile t p with
    | .ok d =>
      let o := s.scan d.source
      ⟨true, o.scanner, o.events⟩
    | .error _ =>
      let o := s.invalidate (some p)
      ⟨true, o.scanner, o.events⟩

/-- Brings the files of a burst of changes up to date, one after the other. -/
def applyAll (t : FileTree) (candidates : List Path) (s : Scanner) :
    List FileChange → Scanner.Outcome Bool
  | [] => ⟨false, s, []⟩
  | change :: changes =>
    let first := w.apply t candidates s change
    let rest := applyAll t candidates first.scanner changes
    ⟨first.answer || rest.answer, rest.scanner, first.events ++ rest.events⟩

end Workspace

end CommentTags
