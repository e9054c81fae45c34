import CommentTags.Pattern.Reader
import CommentTags.Text.Quoted

/-!
Tags as they are configured, what makes one unusable, and the pattern that one stands for.
-/
namespace CommentTags

structure Tag where
  name : String
  pattern : Option String
  color : Option String
  icon : Option String
  priority : Option Int32
deriving DecidableEq, Repr, Inhabited

namespace Tag

def named (name : String) : Tag := ⟨name, none, none, none, none⟩

def standard : List Tag := ["TODO", "FIXME", "NOTE"].map named

inductive Flaw where
  | emptyName
  | invalidPattern
deriving DecidableEq, Repr

def Flaw.message : Flaw → String
  | emptyName => "name must not be empty"
  | invalidPattern => "invalid pattern"

/-- The name of the group that holds what follows a tag, which no pattern may use. -/
def annotationName : Text := "annotation".toList

/-- The nesting around a tag's own pattern. -/
def surroundingDepth : Nat := 2

/-- Memory for what surrounds a tag's own pattern. -/
def surroundingWeight : Nat := 1024

/-- A user's pattern, read without regard to case. It must be a pattern by itself, and still be
one with the separator and the annotation written after it. -/
def custom? (source : String) : Option Pattern := do
  let t := source.toList
  let _ ← Pattern.read? false t
  let read ← Pattern.read? true t
  if read.openComment || read.names.contains annotationName ||
      Pattern.maxDepth < read.depth + surroundingDepth ||
      Pattern.maxWeight < read.pattern.weight + surroundingWeight then none
  else return read.pattern

/-- What is looked for: the user's pattern, or else the name itself. -/
def subject (tag : Tag) : Except Flaw Pattern :=
  if (Text.trim tag.name.toList).isEmpty then .error .emptyName
  else
    match tag.pattern with
    | some source =>
      match custom? source with
      | some p => .ok p
      | none => .error .invalidPattern
    | none => .ok (.likeText tag.name.toList)

end Tag

/-- A tag that was not accepted, with its place in the list. -/
structure RejectedTag where
  index : Nat
  name : String
  flaw : Tag.Flaw
deriving DecidableEq, Repr

namespace RejectedTag

def message (r : RejectedTag) : String :=
  s!"tag #{r.index} ({String.ofList (Text.quoted r.name.toList)}): {r.flaw.message}"

def summary (rs : List RejectedTag) : String :=
  s!"{rs.length} tag(s) rejected: " ++ "; ".intercalate (rs.map message)

end RejectedTag

end CommentTags
