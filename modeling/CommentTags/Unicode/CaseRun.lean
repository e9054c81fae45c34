/-!
Runs of characters that a case mapping moves by one distance.
-/
namespace CommentTags.Unicode

/-- Every `step`-th code point from `first` to `last`; the image of `first` is `image`. -/
structure CaseRun where
  first : Nat
  last : Nat
  step : Nat
  image : Nat
deriving DecidableEq, Repr

namespace CaseRun

def covers (r : CaseRun) (n : Nat) : Bool :=
  r.first ≤ n && n ≤ r.last && (n - r.first) % r.step == 0

/-- The image of a code point under sorted runs; itself if none covers it. -/
def map : List CaseRun → Nat → Nat
  | [], n => n
  | r :: rs, n =>
    if n < r.first then n
    else if r.covers n then r.image + (n - r.first)
    else map rs n

/-- The code points other than `n` that the runs send to `n`. -/
def preimages (runs : List CaseRun) (n : Nat) : List Nat :=
  runs.filterMap fun r =>
    let m := r.first + (n - r.image)
    if r.image ≤ n && r.covers m then some m else none

end CaseRun

end CommentTags.Unicode
