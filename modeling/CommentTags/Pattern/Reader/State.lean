import CommentTags.Pattern

/-!
What reading a pattern keeps track of: the characters ahead, the flags in force, the names of
groups. Under the verbose flag, white space and comments between the parts count for nothing.
-/
namespace CommentTags.Pattern.Reader

structure Flags where
  ignoreCase : Bool
  multiLine : Bool
  dotAll : Bool
  swapGreed : Bool
  anyLineEnd : Bool
  ascii : Bool
  verbose : Bool
deriving DecidableEq, Repr, Inhabited

namespace Flags

def none : Flags := ⟨false, false, false, false, false, false, false⟩

/-- Sets the flag of a letter, if there is one. -/
def set? (f : Flags) (letter : Char) (on : Bool) : Option Flags :=
  match letter with
  | 'i' => some { f with ignoreCase := on }
  | 'm' => some { f with multiLine := on }
  | 's' => some { f with dotAll := on }
  | 'U' => some { f with swapGreed := on }
  | 'R' => some { f with anyLineEnd := on }
  | 'u' => some { f with ascii := !on }
  | 'x' => some { f with verbose := on }
  | _ => Option.none

end Flags

structure State where
  rest : Text
  flags : Flags
  names : List Text
  /-- The pattern ended inside a comment. -/
  openComment : Bool
deriving DecidableEq, Repr, Inhabited

/-- Drops blanks and comments, and tells whether a comment was cut off by the end. -/
def skipBlanks (inComment : Bool) : Text → Text × Bool
  | [] => ([], inComment)
  | c :: t =>
    if inComment then skipBlanks (c != '\n') t
    else if isBlank c then skipBlanks false t
    else if c = '#' then skipBlanks true t
    else (c :: t, false)

namespace State

def peek (s : State) : Option Char := s.rest.head?

def bump (s : State) : State := { s with rest := s.rest.tail }

/-- Skips what does not count under the verbose flag. -/
def skip (s : State) : State :=
  if s.flags.verbose then
    let (rest, cut) := skipBlanks false s.rest
    { s with rest := rest, openComment := s.openComment || cut }
  else s

def bumpSkip (s : State) : State := s.bump.skip

/-- The character after the next one, past blanks and one comment sign. -/
def peekSkip (s : State) : Option Char :=
  let ahead := s.rest.tail
  if s.flags.verbose then
    match ahead.dropWhile isBlank with
    | '#' :: t =>
      match t.dropWhile isBlank with
      | [] => ahead.head?
      | c :: _ => some c
    | c :: _ => some c
    | [] => ahead.head?
  else ahead.head?

/-- Takes a text if it comes next. -/
def take? (s : State) (t : String) : Option State :=
  (t.toList.isPrefixOf? s.rest).map fun rest => { s with rest := rest }

end State

def dropBlanks (s : State) : State :=
  { s with rest := s.rest.dropWhile isBlank }

def digitsValue (base : Nat) (value : Char → Nat) (digits : List Char) : Nat :=
  digits.foldl (fun n c => base * n + value c) 0

def decimalDigits (fuel : Nat) (digits : List Char) (s : State) : List Char × State :=
  match fuel, s.peek with
  | fuel + 1, some c =>
    if c.isDigit then decimalDigits fuel (c :: digits) s.bumpSkip else (digits.reverse, s)
  | _, _ => (digits.reverse, s)

/-- A decimal number of 32 bits, with blanks around it. -/
def decimal? (s : State) : Option (Nat × State) :=
  let s := dropBlanks s
  let (digits, s) := decimalDigits s.rest.length [] s
  let s := (dropBlanks s).skip
  let n := digitsValue 10 (fun c => c.toNat - '0'.toNat) digits
  if digits.isEmpty || UInt32.size ≤ n then none else some (n, s)

end CommentTags.Pattern.Reader
