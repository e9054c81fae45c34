import CommentTags.Buffer.Line
import CommentTags.Files.Failure
import CommentTags.Position

/-!
Editable text addressed by character index or by position. An edit either splices the text
as asked or leaves it alone.
-/
namespace CommentTags

structure Buffer where
  chars : Text
deriving DecidableEq, Repr

inductive BufferError where
  | positionOutOfBounds (position : Position)
  | invalidIndex (index : Nat)
  | file (failure : FileFailure)
deriving DecidableEq, Repr

def BufferError.message : BufferError → String
  | positionOutOfBounds p => s!"Position {p.line}:{p.column} is out of bounds"
  | invalidIndex i => s!"Invalid character index: {i}"
  | file f => s!"IO error: {f.message}"

namespace Buffer

def empty : Buffer := ⟨[]⟩

instance : Inhabited Buffer := ⟨empty⟩

def ofText (t : Text) : Buffer := ⟨t⟩

variable (b : Buffer)

def isEmpty : Bool := b.chars.isEmpty

def size : Nat := b.chars.length

/-- The lines in order; there is always a last, unterminated one. -/
def lines : List Line := b.chars.lines

def lineCount : Nat := b.lines.length

def hasNul : Bool := b.chars.contains '\x00'

def line? (i : Nat) : Option Line := b.lines[i]?

def line (i : Nat) : Except BufferError Line :=
  match b.line? i with
  | some l => .ok l
  | none => .error (.positionOutOfBounds ⟨i, 0⟩)

/-- The line without its terminator. -/
def lineText (i : Nat) : Except BufferError Text :=
  (b.line i).map Line.text

/-- The number of characters before a line. -/
def lineStart (i : Nat) : Nat :=
  ((b.lines.take i).flatMap Line.whole).length

/-- A column may stand after the last character of its line, terminator included. -/
def index (p : Position) : Except BufferError Nat :=
  match b.line? p.line with
  | none => .error (.positionOutOfBounds p)
  | some l =>
    if p.column ≤ l.whole.length then .ok (b.lineStart p.line + p.column)
    else .error (.positionOutOfBounds p)

/-- The text with the characters from `i` up to `j` exchanged for `t`. -/
def splice (i j : Nat) (t : Text) : Buffer :=
  ⟨b.chars.take i ++ t ++ b.chars.drop j⟩

def slice (i j : Nat) : Text :=
  (b.chars.drop i).take (j - i)

def insert (i : Nat) (t : Text) : Except BufferError Buffer :=
  if i ≤ b.size then .ok (b.splice i i t) else .error (.invalidIndex i)

def insertAt (p : Position) (t : Text) : Except BufferError Buffer := do
  b.insert (← b.index p) t

/-- The removed characters and what is left. -/
def delete (i j : Nat) : Except BufferError (Text × Buffer) :=
  if i ≤ j ∧ j ≤ b.size then .ok (b.slice i j, b.splice i j [])
  else .error (.invalidIndex j)

/-- A deletion followed by an insertion at the same place. -/
def replace (i j : Nat) (t : Text) : Except BufferError (Text × Buffer) := do
  let (removed, rest) ← b.delete i j
  let replaced ← rest.insert i t
  return (removed, replaced)

/-- Exchanges the text of a line and keeps its terminator. -/
def replaceLine (i : Nat) (t : Text) : Except BufferError (Text × Buffer) := do
  let start ← b.index ⟨i, 0⟩
  let old ← b.lineText i
  b.replace start (start + old.length) t

end Buffer

end CommentTags
