import CommentTags.Pattern.Reader.Escape

/-!
Classes in brackets: members, ranges, named ASCII classes, nested brackets and set operators.
-/
namespace CommentTags.Pattern.Reader

/-- A part of a bracket with the depth of its nesting. -/
structure Member where
  set : CharClass
  depth : Nat
deriving DecidableEq, Repr, Inhabited

/-- What surrounds the members being read: a bracket, or an operator with its left operand. -/
inductive Frame where
  | bracket (before : List Member) (negated : Bool)
  | operator (op : SetOperator) (left : Member)
deriving DecidableEq, Repr

def asciiClass? : String → Option CharClass
  | "alnum" => some (.union (.range '0' '9') (.union (.range 'A' 'Z') (.range 'a' 'z')))
  | "alpha" => some (.union (.range 'A' 'Z') (.range 'a' 'z'))
  | "ascii" => some (.range '\x00' '\x7f')
  | "blank" => some (.union (.single '\t') (.single ' '))
  | "cntrl" => some (.union (.range '\x00' '\x1f') (.single '\x7f'))
  | "digit" => some (.range '0' '9')
  | "graph" => some (.range '!' '~')
  | "lower" => some (.range 'a' 'z')
  | "print" => some (.range ' ' '~')
  | "punct" => some (.union (.range '!' '/') (.union (.range ':' '@')
      (.union (.range '[' '\x60') (.range '\x7b' '~'))))
  | "space" => some (.union (.range '\t' '\r') (.single ' '))
  | "upper" => some (.range 'A' 'Z')
  | "word" => some (.union (.range '0' '9') (.union (.range 'A' 'Z') (.union (.single '_')
      (.range 'a' 'z'))))
  | "xdigit" => some (.union (.range '0' '9') (.union (.range 'A' 'F') (.range 'a' 'f')))
  | _ => none

def perlClass (ascii : Bool) : PerlKind → CharClass
  | .digit =>
    if ascii then .range '0' '9' else .ofRanges Unicode.decimalNumberRanges
  | .space => if ascii then .union (.range '\t' '\r') (.single ' ') else .blank
  | .word =>
    let plain : CharClass := .union (.range '0' '9') (.union (.range 'A' 'Z')
      (.union (.single '_') (.range 'a' 'z')))
    if ascii then plain else .union plain (.ofRanges Unicode.wordRanges)

def fold (f : Flags) (s : CharClass) : CharClass :=
  if !f.ignoreCase then s else if f.ascii then .asciiFolded s else .folded s

/-- Folding comes before negation; without Unicode a negated class could split characters. -/
def foldNegate? (f : Flags) (negated : Bool) (s : CharClass) : Option CharClass :=
  if negated then if f.ascii then none else some (.complement (fold f s)) else some (fold f s)

def perl? (f : Flags) (kind : PerlKind) (negated : Bool) : Option CharClass :=
  let s := perlClass f.ascii kind
  if negated then if f.ascii then none else some (.complement s) else some s

def property? (f : Flags) (set : Unicode.CharSet) (negated : Bool) : Option CharClass :=
  if f.ascii then none else foldNegate? f negated (.set set)

/-- A character that stands for itself inside a bracket. -/
def memberChar? (f : Flags) : Primitive → Option Char
  | .literal c _ => if f.ascii && 0x80 ≤ c.toNat then none else some c
  | _ => none

def member? (f : Flags) : Primitive → Option CharClass
  | .perl kind negated => perl? f kind negated
  | .property set negated => property? f set negated
  | p => (memberChar? f p).map .single

def item (s : State) : Option (Primitive × State) :=
  match s.peek with
  | none => none
  | some '\\' => escape s.bump
  | some c => some (.literal c false, s.bump)

/-- One member or a range of two characters. -/
def range (s : State) : Option (CharClass × State) := do
  let (first, s) ← item s
  let s := s.skip
  match s.peek with
  | none => none
  | some '-' =>
    if s.peekSkip = some ']' || s.peekSkip = some '-' then
      return (← member? s.flags first, s)
    else
      let (last, s) ← item s.bumpSkip
      let a ← memberChar? s.flags first
      let b ← memberChar? s.flags last
      if a ≤ b then return (.range a b, s) else none
  | some _ => return (← member? s.flags first, s)

/-- A named class such as that of the digits, if one stands here. -/
def named? (s : State) : Option (Option CharClass × State) := do
  let s ← s.take? "[:"
  let (negated, s) := if s.peek = some '^' then (true, s.bump) else (false, s)
  let name := s.rest.takeWhile (· != ':')
  let s := { s with rest := s.rest.dropWhile (· != ':') }
  let s ← s.take? ":]"
  let set ← asciiClass? (String.ofList name)
  return (foldNegate? s.flags negated set, s)

/-- The members read so far, the last one first, as one. -/
def gather : List Member → Member
  | [] => ⟨.nothing, 0⟩
  | [m] => m
  | m :: ms =>
    ⟨ms.foldl (fun s n => .union n.set s) m.set, 1 + ms.foldl (fun d n => max d n.depth) m.depth⟩

/-- Applies an operator that waits for its right operand. -/
def applyOperator (f : Flags) (right : Member) : List Frame → Member × List Frame
  | .operator op left :: frames =>
    (⟨.operation op (fold f left.set) (fold f right.set), 1 + max left.depth right.depth⟩, frames)
  | frames => (right, frames)

def leadingHyphens (fuel : Nat) (members : List Member) (s : State) : List Member × State :=
  match fuel, s.peek with
  | fuel + 1, some '-' => leadingHyphens fuel (⟨.single '-', 0⟩ :: members) s.bumpSkip
  | _, _ => (members, s)

/-- After an opening bracket: negation, hyphens and a first closing bracket stand for themselves. -/
def opening (s : State) : Bool × List Member × State :=
  let s := s.skip
  let (negated, s) := if s.peek = some '^' then (true, s.bumpSkip) else (false, s)
  let (members, s) := leadingHyphens s.rest.length [] s
  if members.isEmpty && s.peek = some ']' then (negated, [⟨.single ']', 0⟩], s.bumpSkip)
  else (negated, members, s)

def operator? (s : State) : Option (SetOperator × State) :=
  ((s.take? "&&").map (.intersection, ·)).or
    (((s.take? "--").map (.difference, ·)).or ((s.take? "~~").map (.symmetricDifference, ·)))

/-- Reads members up to the bracket that closes the outermost one. -/
def members (fuel : Nat) (frames : List Frame) (sofar : List Member) (s : State) :
    Option (Member × State) :=
  match fuel with
  | 0 => none
  | fuel + 1 =>
    let s := s.skip
    match s.peek with
    | none => none
    | some '[' =>
      match named? s with
      | some (set, s) => do members fuel frames (⟨← set, 0⟩ :: sofar) s
      | none =>
        let (negated, inner, s) := opening s.bump
        members fuel (.bracket sofar negated :: frames) inner s
    | some ']' =>
      let (whole, frames) := applyOperator s.flags (gather sofar) frames
      match frames with
      | .bracket before negated :: frames => do
        let set ← foldNegate? s.flags negated whole.set
        let closed : Member := ⟨set, 1 + whole.depth⟩
        if frames.isEmpty then return (closed, s.bump)
        else members fuel frames (closed :: before) s.bump
      | _ => none
    | some _ =>
      match operator? s with
      | some (op, s) =>
        let (left, frames) := applyOperator s.flags (gather sofar) frames
        members fuel (.operator op left :: frames) [] s
      | none => do
        let (set, s) ← range s
        members fuel frames (⟨set, 0⟩ :: sofar) s

/-- A class in brackets, from its opening bracket on. -/
def bracket (s : State) : Option (Member × State) :=
  let (negated, inner, rest) := opening s.bump
  members s.rest.length [.bracket [] negated] inner rest

end CommentTags.Pattern.Reader
