import CommentTags.Pattern.Reader.Bracket

/-!
Reading patterns from text.
-/
namespace CommentTags.Pattern

namespace Reader

/-- A part of a pattern with the depth of its nesting; flags and nothing cannot be repeated. -/
structure Part where
  pattern : Pattern
  depth : Nat
  repeatable : Bool
deriving DecidableEq, Repr, Inhabited

/-- The parts of a group so far: finished branches, and the branch being read, last part first. -/
structure Branches where
  done : List Part
  parts : List Part
deriving DecidableEq, Repr, Inhabited

structure Group where
  before : Branches
  flags : Flags
deriving DecidableEq, Repr

def Branches.none : Branches := ⟨[], []⟩

def Branches.push (b : Branches) (p : Part) : Branches := { b with parts := p :: b.parts }

def nesting (ps : List Part) : Nat := 1 + ps.foldl (fun d p => max d p.depth) 0

/-- Parts put together by an operation; the last part comes first in the list. -/
def joined (join : Pattern → Pattern → Pattern) (ps : List Part) : Part :=
  match ps.reverse with
  | [] => ⟨.empty, 0, false⟩
  | [p] => p
  | p :: rest => ⟨rest.foldl (fun q r => join q r.pattern) p.pattern, nesting ps, true⟩

def sequence (ps : List Part) : Part := joined .seq ps

def Branches.close (b : Branches) : Part := joined .alt (sequence b.parts :: b.done)

def Branches.split (b : Branches) : Branches := ⟨sequence b.parts :: b.done, []⟩

/-- The pattern of a primitive under the flags in force. -/
def primitive? (f : Flags) : Primitive → Option Pattern
  | .literal c byte =>
    if f.ascii then
      if byte && 0x80 ≤ c.toNat then Option.none else some (.one (fold f (.single c)))
    else some (.one (if f.ignoreCase then .like c else .single c))
  | .dot =>
    if f.ascii then Option.none
    else if f.dotAll then some (.one .any)
    else if f.anyLineEnd then
      some (.one (.complement (.union (.single '\n') (.single '\r'))))
    else some (.one (.complement (.single '\n')))
  | .perl kind negated => (perl? f kind negated).map .one
  | .property set negated => (property? f set negated).map .one
  | .look l => some (.look l)

def lineStart (f : Flags) : Look :=
  if f.multiLine then if f.anyLineEnd then .anyLineStart else .lineStart else .textStart

def lineStop (f : Flags) : Look :=
  if f.multiLine then if f.anyLineEnd then .anyLineStop else .lineStop else .textStop

/-- Replaces the last part by its repetition. -/
def repeatLast (b : Branches) (least : Nat) (most : Option Nat) (greedy : Bool) :
    Option Branches :=
  match b.parts with
  | [] => Option.none
  | p :: ps =>
    if !p.repeatable then Option.none
    else
      let more : Pattern := match most with
        | Option.none => .iterate p.pattern Option.none greedy
        | some n => if n = least then .empty else .iterate p.pattern (some (n - least)) greedy
      let pattern : Pattern := match least with
        | 0 => more
        | 1 => .seq p.pattern more
        | n => .seq (.times p.pattern n) more
      some { b with parts := ⟨pattern, p.depth + 1, true⟩ :: ps }

/-- After the sign of a repetition: a question mark turns its greed around. -/
def greed (s : State) : Bool × State :=
  if s.peek = some '?' then (s.flags.swapGreed, s.bump) else (!s.flags.swapGreed, s)

/-- After an opening brace. -/
def counted (b : Branches) (s : State) : Option (Branches × State) := do
  let (least, s) ← decimal? s.skip
  let (most, s) ←
    if s.peek = some ',' then
      let s := s.bumpSkip
      if s.peek = some '\x7d' then pure (Option.none, s)
      else do
        let (n, s) ← decimal? s
        pure (some n, s)
    else pure (some least, s)
  if s.peek ≠ some '\x7d' then Option.none
  else
    let (greedy, s) := greed s.bumpSkip
    if most.any (· < least) then Option.none
    else return (← repeatLast b least most greedy, s)

/-- Flag letters, up to the colon or bracket after them. -/
def flagLetters (fuel : Nat) (seen : List Char) (on : Bool) (f : Flags) (s : State) :
    Option (List Char × Flags × State) :=
  match fuel, s.peek with
  | fuel + 1, some c =>
    if c = ':' || c = ')' then
      if seen.head? = some '-' then Option.none else some (seen, f, s)
    else if seen.contains c then Option.none
    else if c = '-' then flagLetters fuel (c :: seen) false f s.bump
    else do flagLetters fuel (c :: seen) on (← f.set? c on) s.bump
  | _, _ => Option.none

def isNameStart (c : Char) : Bool := c == '_' || Unicode.alphabeticRanges.contains c

def isNameChar (c : Char) : Bool :=
  isNameStart c || c == '.' || c == '[' || c == ']' ||
    Unicode.decimalNumberRanges.contains c || Unicode.letterNumberRanges.contains c ||
    Unicode.otherNumberRanges.contains c

/-- The name of a group, which no other group may have. -/
def groupName (s : State) : Option State :=
  let name := s.rest.takeWhile (· != '>')
  match name, s.rest.dropWhile (· != '>') with
  | c :: cs, _ :: rest =>
    if isNameStart c && cs.all isNameChar && !s.names.contains name then
      some { s with rest := rest, names := name :: s.names }
    else Option.none
  | _, _ => Option.none

/-- What an opening bracket begins: new flags for the rest, or a group with its flags. -/
inductive Opening where
  | flags (s : State)
  | group (s : State)

/-- After an opening bracket. -/
def openGroup (s : State) : Option Opening :=
  let s := s.skip
  if (s.take? "?=").isSome || (s.take? "?!").isSome || (s.take? "?<=").isSome ||
      (s.take? "?<!").isSome then Option.none
  else
    match (s.take? "?P<").or (s.take? "?<") with
    | some s => (groupName s).map .group
    | Option.none =>
      match s.take? "?" with
      | some s => do
        let (seen, f, s) ← flagLetters (s.rest.length + 1) [] true s.flags s
        let after := { s.bump with flags := f }
        if s.peek = some ')' then if seen.isEmpty then Option.none else return .flags after
        else return .group after
      | Option.none => some (.group s)

/-- Reads up to the end of the text, with the groups still open around it. -/
def parts (fuel : Nat) (groups : List Group) (b : Branches) (s : State) :
    Option (Part × State) :=
  match fuel with
  | 0 => Option.none
  | fuel + 1 =>
    let s := s.skip
    let next (p : Pattern) (s : State) := parts fuel groups (b.push ⟨p, 0, true⟩) s
    match s.peek with
    | Option.none => if groups.isEmpty then some (b.close, s) else Option.none
    | some '(' => do
      match ← openGroup s.bump with
      | .flags s => parts fuel groups (b.push ⟨.empty, 0, false⟩) s
      | .group inner => parts fuel (⟨b, s.flags⟩ :: groups) .none inner
    | some ')' =>
      match groups with
      | [] => Option.none
      | g :: groups =>
        let whole := b.close
        let closed : Part := ⟨whole.pattern, whole.depth + 1, true⟩
        parts fuel groups (g.before.push closed) { s.bump with flags := g.flags }
    | some '|' => parts fuel groups b.split s.bump
    | some '[' => do
      let (m, s) ← bracket s
      parts fuel groups (b.push ⟨.one m.set, m.depth, true⟩) s
    | some '?' => do
      let (greedy, s) := greed s.bump
      parts fuel groups (← repeatLast b 0 (some 1) greedy) s
    | some '*' => do
      let (greedy, s) := greed s.bump
      parts fuel groups (← repeatLast b 0 Option.none greedy) s
    | some '+' => do
      let (greedy, s) := greed s.bump
      parts fuel groups (← repeatLast b 1 Option.none greedy) s
    | some '\x7b' => do
      let (b, s) ← counted b s.bump
      parts fuel groups b s
    | some '\\' => do
      let (p, s) ← escape s.bump
      next (← primitive? s.flags p) s
    | some '^' => next (.look (lineStart s.flags)) s.bump
    | some '$' => next (.look (lineStop s.flags)) s.bump
    | some '.' => do next (← primitive? s.flags .dot) s.bump
    | some c => do next (← primitive? s.flags (.literal c false)) s.bump

end Reader

/-- A pattern that was read, with what decides where it may be embedded. -/
structure Source where
  pattern : Pattern
  depth : Nat
  names : List Text
  openComment : Bool
deriving DecidableEq, Repr, Inhabited

/-- The deepest nesting that is read. -/
def maxDepth : Nat := 250

/-- The most memory that a pattern may take. -/
def maxWeight : Nat := 10 * 1024 * 1024

/-- Reads a pattern, at first with or without regard to case. -/
def read? (ignoreCase : Bool) (t : Text) : Option Source := do
  let flags := { Reader.Flags.none with ignoreCase := ignoreCase }
  let (part, s) ← Reader.parts (t.length + 1) [] .none ⟨t, flags, [], false⟩
  if part.depth ≤ maxDepth && part.pattern.weight ≤ maxWeight then
    return ⟨part.pattern, part.depth, s.names, s.openComment⟩
  else none

end CommentTags.Pattern
