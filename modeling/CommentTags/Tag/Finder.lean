import CommentTags.Comment.Locator
import CommentTags.Tag

/-!
Accepted tags and the search for them in a comment. Tags are tried in their order; what follows
the tag, after one separator, is its annotation.
-/
namespace CommentTags

/-- A colon or a blank may stand between a tag and its annotation. -/
def separator : Pattern :=
  .optional (.one (.union (.single ':') .blank))

/-- All the rest, as long as no line ends in it. -/
def remainder : Pattern :=
  .seq (.iterate (.one (.complement (.single '\n'))) none true) (.look .textStop)

/-- A tag with the pattern it stands for. -/
structure Finder where
  tag : Tag
  subject : Pattern
deriving DecidableEq, Repr

/-- A tag found on a line, in columns of that line. -/
structure TagMatch where
  tag : Tag
  annotation : Text
  startColumn : Nat
  stopColumn : Nat
deriving DecidableEq, Repr

namespace Finder

/-- Where a match begins, where its annotation begins, and where both end. -/
def split? (f : Finder) (t : Text) : Option (Cursor × Cursor × Cursor) :=
  Pattern.findSplit? (.seq f.subject separator) remainder t

/-- The first place where the name itself stands in a text. -/
def nameIndex? (f : Finder) (t : Text) : Option Nat :=
  (Pattern.find? (.likeText f.tag.name.toList) t).map fun m => m.1.index

/-- The byte of the line where a match begins: at the name if it stands in the comment, else at
the matched text, else where the comment begins. -/
def startByte (f : Finder) (c : Comment) (matched : Text) : Nat :=
  match f.nameIndex? c.text with
  | some i => c.offset + Text.bytes (c.text.take i)
  | none =>
    match c.text.cut? matched with
    | some (before, _) => c.offset + before.bytes
    | none => c.offset

/-- The match of one tag in a comment that lies on the line. -/
def find? (f : Finder) (line : Text) (c : Comment) : Option TagMatch :=
  (f.split? c.text).map fun (start, annotated, stop) =>
    let matched := Text.trim (start.rest.take (stop.index - start.index))
    let startColumn := Text.columnAt line (f.startByte c matched)
    { tag := f.tag
      annotation := Text.trim (annotated.rest.take (stop.index - annotated.index))
      startColumn := startColumn
      stopColumn := min (startColumn + matched.length) line.length }

end Finder

/-- The comment's text stands at its offset on the line. -/
def Comment.liesOn (c : Comment) (line : Text) : Bool :=
  match Text.splitAtByte? line c.offset with
  | some (_, rest) => c.text.isPrefixOf rest
  | none => false

/-- The accepted tags in their order. -/
structure TagSet where
  finders : List Finder
deriving DecidableEq, Repr

namespace TagSet

def compileFrom (index : Nat) : List Tag → List Finder × List RejectedTag
  | [] => ([], [])
  | tag :: tags =>
    let (finders, rejected) := compileFrom (index + 1) tags
    match tag.subject with
    | .ok p => (⟨tag, p⟩ :: finders, rejected)
    | .error flaw => (finders, ⟨index, tag.name, flaw⟩ :: rejected)

/-- The set of the tags that can be used, and the others. -/
def compile (tags : List Tag) : TagSet × List RejectedTag :=
  let (finders, rejected) := compileFrom 0 tags
  (⟨finders⟩, rejected)

/-- The set of all the tags; none may be rejected. -/
def ofTags (tags : List Tag) : Except (List RejectedTag) TagSet :=
  match compile tags with
  | (set, []) => .ok set
  | (_, rejected) => .error rejected

variable (s : TagSet)

def tags : List Tag := s.finders.map Finder.tag

def size : Nat := s.finders.length

def isEmpty : Bool := s.finders.isEmpty

/-- The first tag that is found in the comment; a comment that is not on the line holds none. -/
def find? (line : Text) (c : Comment) : Option TagMatch :=
  if c.liesOn line then s.finders.findSome? fun f => f.find? line c else none

end TagSet

end CommentTags
