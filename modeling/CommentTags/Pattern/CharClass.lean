import CommentTags.Text.Letters
import CommentTags.Unicode.Property

/-!
Sets of characters as patterns write them.
-/
namespace CommentTags

inductive SetOperator where
  | intersection
  | difference
  | symmetricDifference
deriving DecidableEq, Repr

def SetOperator.apply : SetOperator → Bool → Bool → Bool
  | intersection, a, b => a && b
  | difference, a, b => a && !b
  | symmetricDifference, a, b => a != b

inductive CharClass where
  | nothing
  | range (first last : Char)
  /-- The characters that differ from `c` at most in case. -/
  | like (c : Char)
  | set (s : Unicode.CharSet)
  | union (a b : CharClass)
  | operation (op : SetOperator) (a b : CharClass)
  | complement (a : CharClass)
  /-- The characters that differ only in case from a member. -/
  | folded (a : CharClass)
  /-- As `folded`, for the case of ASCII letters alone. -/
  | asciiFolded (a : CharClass)
deriving DecidableEq, Repr, Inhabited

namespace CharClass

def single (c : Char) : CharClass := .range c c

def any : CharClass := .complement .nothing

def blank : CharClass := .set (.ofRanges Unicode.Property.whiteSpaceRanges)

def ofRanges (r : Unicode.Ranges) : CharClass := .set (.ofRanges r)

def asciiSwapCase (c : Char) : Char :=
  if c.isLower then c.toUpper else c.toLower

def contains : CharClass → Char → Bool
  | nothing, _ => false
  | range first last, c => first ≤ c && c ≤ last
  | like d, c => fold c == fold d
  | set s, c => s.contains c
  | union a b, c => a.contains c || b.contains c
  | operation op a b, c => op.apply (a.contains c) (b.contains c)
  | complement a, c => !a.contains c
  | folded a, c => a.contains c || (foldClass c).any a.contains
  | asciiFolded a, c => a.contains c || a.contains (asciiSwapCase c)

/-- How many separate ranges the class is written with, at most. -/
def extent : CharClass → Nat
  | nothing => 0
  | range .. => 1
  | like _ => 2
  | set s => (s.parts.map fun r => r.pairs.length).sum + 1
  | union a b => a.extent + b.extent
  | operation _ a b => a.extent + b.extent
  | complement a => a.extent + 1
  | folded a => 2 * a.extent
  | asciiFolded a => 2 * a.extent

end CharClass

end CommentTags
