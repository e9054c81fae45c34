import CommentTags.Pattern.CharClass
import Std.Data.HashSet.Basic

/-!
Patterns and where they match. A pattern sends a cursor to the cursors at which a match from
there may end, the preferred end first and none of them twice; the leftmost cursor with an end
is where the pattern is found.
-/
namespace CommentTags

/-- A place between two characters of a text. -/
structure Cursor where
  index : Nat
  before : Option Char
  rest : Text
deriving DecidableEq, Repr, Inhabited

inductive Edge where
  | either
  | neither
  | start
  | stop
  | startHalf
  | stopHalf
deriving DecidableEq, Repr

/-- A condition on a place, which takes up no character. -/
inductive Look where
  | textStart
  | textStop
  | lineStart
  | lineStop
  /-- As `lineStart`, where carriage returns end lines too. -/
  | anyLineStart
  | anyLineStop
  | word (edge : Edge) (ascii : Bool)
deriving DecidableEq, Repr

inductive Pattern where
  | empty
  | one (s : CharClass)
  | look (l : Look)
  | seq (p q : Pattern)
  | alt (p q : Pattern)
  | times (p : Pattern) (n : Nat)
  /-- Up to `limit` repetitions, preferably many if `greedy`. -/
  | iterate (p : Pattern) (limit : Option Nat) (greedy : Bool)
deriving DecidableEq, Repr, Inhabited

def isAsciiWord (c : Char) : Bool :=
  c.isAlphanum || c == '_'

def isWord (c : Char) : Bool :=
  isAsciiWord c || Unicode.wordRanges.contains c

namespace Edge

def holds : Edge → (before after : Bool) → Bool
  | either, b, a => b != a
  | neither, b, a => b == a
  | start, b, a => !b && a
  | stop, b, a => b && !a
  | startHalf, b, _ => !b
  | stopHalf, _, a => !a

end Edge

namespace Cursor

def atStart (t : Text) : Cursor := ⟨0, none, t⟩

def after (c : Cursor) : Option Char := c.rest.head?

end Cursor

namespace Look

def holds (l : Look) (c : Cursor) : Bool :=
  match l with
  | textStart => c.before.isNone
  | textStop => c.rest.isEmpty
  | lineStart => c.before.isNone || c.before == some '\n'
  | lineStop => c.rest.isEmpty || c.after == some '\n'
  | anyLineStart => c.before.isNone || c.before == some '\n' ||
      (c.before == some '\r' && c.after != some '\n')
  | anyLineStop => c.rest.isEmpty || c.after == some '\r' ||
      (c.after == some '\n' && c.before != some '\r')
  | word edge ascii =>
    let member := if ascii then isAsciiWord else isWord
    edge.holds (c.before.any member) (c.after.any member)

end Look

namespace Pattern

/-- Keeps the first cursor of each place not yet seen. -/
def distinctFrom (seen : Std.HashSet Nat) : List Cursor → List Cursor
  | [] => []
  | c :: cs =>
    if seen.contains c.index then distinctFrom seen cs
    else c :: distinctFrom (seen.insert c.index) cs

def distinct : List Cursor → List Cursor
  | [] => []
  | [c] => [c]
  | cs => distinctFrom ∅ cs

def stepOver (s : CharClass) (c : Cursor) : List Cursor :=
  match c.rest with
  | [] => []
  | d :: t => if s.contains d then [⟨c.index + 1, some d, t⟩] else []

/-- All places reached over members of a class, the furthest first, before those in `passed`. -/
def stretch (s : CharClass) (passed : List Cursor) (i : Nat) (before : Option Char) :
    Text → List Cursor
  | [] => ⟨i, before, []⟩ :: passed
  | d :: t =>
    if s.contains d then stretch s (⟨i, before, d :: t⟩ :: passed) (i + 1) (some d) t
    else ⟨i, before, d :: t⟩ :: passed

def power (step : Cursor → List Cursor) : Nat → List Cursor → List Cursor
  | 0, cs => cs
  | n + 1, cs => power step n (distinct (cs.flatMap step))

/-- What repeating a step has met and, in reverse, where it may end. -/
structure Trail where
  seen : Std.HashSet (Nat × Nat)
  ends : List Cursor

def Trail.emit (t : Trail) (c : Cursor) : Trail := { t with ends := c :: t.ends }

/-- Repeats a step up to `left` times. With no limit to keep, a place is entered once and a
repetition that moves nowhere is the last. -/
def explore (step : Cursor → List Cursor) (limited greedy : Bool) :
    (left : Nat) → Trail → Cursor → Trail
  | 0, t, c => t.emit c
  | left + 1, t, c =>
    let key := (if limited then left + 1 else 0, c.index)
    if t.seen.contains key then t
    else
      let t := { t with seen := t.seen.insert key }
      let t := if greedy then t else t.emit c
      let t := (step c).foldl (fun t e =>
        if !limited && e.index == c.index then t.emit e
        else explore step limited greedy left t e) t
      if greedy then t.emit c else t

def repeated (step : Cursor → List Cursor) (limit : Option Nat) (greedy : Bool) (c : Cursor) :
    List Cursor :=
  let left := limit.getD (c.rest.length + 1)
  distinct (explore step limit.isSome greedy left ⟨∅, []⟩ c).ends.reverse

/-- Where a match that begins at the cursor may end, the preferred end first. -/
def ends : Pattern → Cursor → List Cursor
  | empty, c => [c]
  | one s, c => stepOver s c
  | look l, c => if l.holds c then [c] else []
  | seq p q, c => distinct ((p.ends c).flatMap q.ends)
  | alt p q, c => distinct (p.ends c ++ q.ends c)
  | times p n, c => power p.ends n [c]
  | iterate (one s) none greedy, c =>
    let reached := stretch s [] c.index c.before c.rest
    if greedy then reached else reached.reverse
  | iterate p limit greedy, c => repeated p.ends limit greedy c

/-- The first cursor, from left to right, that has an answer. -/
def search {α : Type} (f : Cursor → Option α) (i : Nat) (before : Option Char) :
    Text → Option α
  | [] => f ⟨i, before, []⟩
  | d :: t =>
    match f ⟨i, before, d :: t⟩ with
    | some a => some a
    | none => search f (i + 1) (some d) t

/-- The leftmost match and, of those that begin there, the preferred one. -/
def find? (p : Pattern) (t : Text) : Option (Cursor × Cursor) :=
  search (fun c => (p.ends c).head?.map fun e => (c, e)) 0 none t

/-- As `find?` for `p` followed by `q`, with the place where `q` begins. -/
def findSplit? (p q : Pattern) (t : Text) : Option (Cursor × Cursor × Cursor) :=
  search (fun c => (p.ends c).findSome? fun m => (q.ends m).head?.map fun e => (c, m, e)) 0 none t

/-- The text itself, whatever its case. -/
def likeText : Text → Pattern
  | [] => empty
  | c :: t => seq (one (.like c)) (likeText t)

def optional (p : Pattern) : Pattern := iterate p (some 1) true

/-- An estimate of the memory that the pattern takes when it is unrolled. -/
def weight : Pattern → Nat
  | empty => 32
  | one s => 24 + 24 * s.extent
  | look _ => 32
  | seq p q => p.weight + q.weight
  | alt p q => p.weight + q.weight + 32
  | times p n => p.weight * n
  | iterate p limit _ => p.weight * (limit.getD 1) + 32

end Pattern

end CommentTags
