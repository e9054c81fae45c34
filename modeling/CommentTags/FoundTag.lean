import CommentTags.Document
import CommentTags.Tag.Finder

/-!
Tags found in documents.
-/
namespace CommentTags

/-- One occurrence of a tag, with the text of its line and what follows the tag. -/
structure FoundTag where
  document : DocumentId
  range : Range
  lineText : Text
  tag : String
  annotation : Text
  line : Nat
deriving DecidableEq, Repr

namespace FoundTag

def ofMatch (id : DocumentId) (line : Nat) (lineText : Text) (m : TagMatch) : FoundTag where
  document := id
  range := .onLine line m.startColumn m.stopColumn
  lineText := lineText
  tag := m.tag.name
  annotation := m.annotation
  line := line

def startsBefore (a b : FoundTag) : Bool := a.range.start ≤ b.range.start

/-- By document, then by where the tag starts. -/
def le (a b : FoundTag) : Bool :=
  a.document < b.document || a.document = b.document && a.startsBefore b

end FoundTag

end CommentTags
