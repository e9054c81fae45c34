import CommentTags.Text

/-!
Paths as slashes divide them. Empty pieces and full stops between slashes mean nothing; two
paths that differ only in them name the same file.
-/
namespace CommentTags

abbrev Path := String

inductive Component where
  | root
  /-- A full stop that begins a path. -/
  | current
  | parent
  | named (name : Text)
deriving DecidableEq, Repr

namespace Component

def rank : Component → Nat
  | root => 0
  | current => 1
  | parent => 2
  | named _ => 3

/-- Names are ordered by their characters, after everything else. -/
instance : Ord Component where
  compare a b :=
    match a, b with
    | named s, named t => compare s t
    | a, b => compare a.rank b.rank

/-- What a piece after the first stands for. -/
def ofPiece? (piece : Text) : Option Component :=
  if piece = [] ∨ piece = ['.'] then none
  else if piece = ['.', '.'] then some parent
  else some (named piece)

end Component

namespace Path

def pieces (p : Path) : List Text := Text.fields '/' p.toList

/-- The components among pieces, each with the pieces after it. -/
def steps (isFirst : Bool) : List Text → List (Component × List Text)
  | [] => []
  | piece :: rest =>
    let here : Option Component :=
      if isFirst && piece = [] && !rest.isEmpty then some .root
      else if isFirst && piece = ['.'] then some .current
      else Component.ofPiece? piece
    (here.map (·, rest)).toList ++ steps false rest

def components (p : Path) : List Component :=
  (steps true p.pieces).map Prod.fst

/-- The order of files in a listing. -/
def le (p q : Path) : Bool :=
  (compare p.components q.components).isLE

def isAbsolute (p : Path) : Bool := p.toList.head? == some '/'

/-- The last component if it is a name. -/
def fileName? (p : Path) : Option Text :=
  match p.components.getLast? with
  | some (.named name) => some name
  | _ => none

/-- What follows the last full stop of a name; a name that only begins with one has none. -/
def nameExtension? (name : Text) : Option Text :=
  let after := name.reverse.takeWhile (· ≠ '.')
  if name.length ≤ after.length + 1 then none else some after.reverse

def extension? (p : Path) : Option String :=
  (p.fileName?.bind nameExtension?).map String.ofList

def isSilent (piece : Text) : Bool := piece = [] || piece = ['.']

def ofPieces (ps : List Text) : Path := String.ofList (['/'].intercalate ps)

/-- The pieces without silent ones at the end. -/
def trimEnd (ps : List Text) : List Text :=
  (ps.reverse.dropWhile isSilent).reverse

/-- The path of the first pieces of a path that is not empty. -/
def ofFirst : List Text → Path
  | [] => ""
  | first :: rest =>
    let kept := trimEnd rest
    if first.isEmpty && kept.isEmpty then "/" else ofPieces (first :: kept)

/-- The part of a path after the components of `base`, if it begins with them all. -/
def relativeTo? (p base : Path) : Option Path :=
  let bs := base.components
  let own := steps true p.pieces
  if (own.map Prod.fst).take bs.length = bs then
    match bs.length with
    | 0 => some (if p.isEmpty then p else ofFirst p.pieces)
    | n + 1 =>
      (own[n]?).map fun step => ofPieces (trimEnd (step.2.dropWhile isSilent))
  else none

/-- The path without its last component. -/
def parent? (p : Path) : Option Path :=
  match (steps true p.pieces).reverse with
  | [] => none
  | (.root, _) :: _ => none
  | (_, after) :: _ => some (ofFirst (p.pieces.take (p.pieces.length - after.length - 1)))

/-- An absolute path stands for itself; any other is taken from `base`. -/
def join (base p : Path) : Path :=
  if p.isAbsolute then p
  else if base.isEmpty || base.toList.getLast? == some '/' then base ++ p
  else base ++ "/" ++ p

/-- The paths differ in silent pieces at most. -/
def same (p q : Path) : Bool := p.components == q.components

/-- The absolute path of names from the root on. -/
def ofNames (names : List Text) : Path :=
  String.ofList ('/' :: ['/'].intercalate names)

end Path

end CommentTags
