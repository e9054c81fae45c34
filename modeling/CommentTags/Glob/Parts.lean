import CommentTags.Pattern

/-!
The parts of a glob and the pattern that each stands for. Globs see a path byte by byte: every
byte is one character of the text that the pattern reads.
-/
namespace CommentTags.Glob

/-- The bytes of a text, each as a character. -/
def byteText (t : Text) : Text :=
  t.flatMap fun c => (String.utf8EncodeChar c).map fun b => Char.ofNat b.toNat

inductive Part where
  | literal (c : Char)
  | anyOne
  | many
  /-- Any number of leading folders. -/
  | folders
  /-- A slash and all below it. -/
  | below
  /-- A slash, with any number of folders behind it. -/
  | between
  | chosen (negated : Bool) (ranges : List (Char × Char))
  /-- One of several branches; those that stand for nothing at all are left out. -/
  | branches (ps : List Pattern)
deriving DecidableEq, Repr, Inhabited

/-- Whether single characters and stars may match a slash. -/
structure Options where
  slashIsSpecial : Bool
  looseClasses : Bool
deriving DecidableEq, Repr

def oneOf : List CharClass → CharClass
  | [] => .nothing
  | [s] => s
  | s :: ss => .union s (oneOf ss)

def concatenated : List Pattern → Pattern
  | [] => .empty
  | p :: ps => ps.foldl .seq p

def alternatives : List Pattern → Pattern
  | [] => .empty
  | p :: ps => ps.foldl .alt p

def slash : Pattern := .one (.single '/')

def anything : Pattern := .iterate (.one .any) none true

/-- The bytes of a range: only the last of its first character and the first of its last
character are its ends, the others stand for themselves. -/
def byteRange (r : Char × Char) : CharClass :=
  if r.1 = r.2 then oneOf ((byteText [r.1]).map .single)
  else
    match (byteText [r.1]).reverse, byteText [r.2] with
    | a :: before, b :: after => oneOf (.range a b :: (before ++ after).map .single)
    | _, _ => .nothing

namespace Part

/-- The pattern of a part; none if it stands for nothing at all. -/
def pattern? (o : Options) : Part → Option Pattern
  | literal c => some (concatenated ((byteText [c]).map fun b => .one (.single b)))
  | anyOne => some (.one (if o.slashIsSpecial then .complement (.single '/') else .any))
  | many =>
    some (.iterate (.one (if o.slashIsSpecial then .complement (.single '/') else .any)) none true)
  | folders => some (.alt (.optional slash) (.seq anything slash))
  | below => some (.seq slash anything)
  | between => some (.alt slash (.seq slash (.seq anything slash)))
  | chosen negated ranges =>
    let s := oneOf (ranges.map byteRange)
    some (.one (if negated then .complement s else s))
  | branches [] => none
  | branches ps => some (alternatives ps)

/-- The pattern of parts one after the other; none if they stand for nothing at all. -/
def sequence? (o : Options) (parts : List Part) : Option Pattern :=
  match parts.filterMap (pattern? o) with
  | [] => none
  | ps => some (concatenated ps)

end Part

end CommentTags.Glob
