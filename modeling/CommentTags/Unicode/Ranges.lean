/-!
Sets of characters given by ranges of code points, and their written form: hexadecimal
numbers and pairs of them, separated by blanks.
-/
namespace CommentTags.Unicode

/-- First and last code points of ranges in increasing order. -/
structure Ranges where
  pairs : List (Nat × Nat)
deriving DecidableEq, Repr, Inhabited

namespace Ranges

def hexDigit (c : Char) : Nat :=
  if c.isDigit then c.toNat - '0'.toNat else c.toNat - 'A'.toNat + 10

/-- Reads from a list of characters; `low` is the first end of a pair already begun. -/
def ofChars (low : Option Nat) (n : Nat) : List Char → List (Nat × Nat)
  | [] => [(low.getD n, n)]
  | ' ' :: cs => (low.getD n, n) :: ofChars none 0 cs
  | '-' :: cs => ofChars (some n) 0 cs
  | c :: cs => ofChars low (16 * n + hexDigit c) cs

def ofLines (ss : List String) : Ranges :=
  ⟨ss.flatMap fun s => ofChars none 0 s.toList⟩

def inPairs (n : Nat) : List (Nat × Nat) → Bool
  | [] => false
  | (first, last) :: ps => if n < first then false else n ≤ last || inPairs n ps

def contains (r : Ranges) (c : Char) : Bool :=
  inPairs c.toNat r.pairs

end Ranges

end CommentTags.Unicode
