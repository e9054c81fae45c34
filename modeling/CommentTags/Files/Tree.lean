import CommentTags.Files.Failure
import CommentTags.Keyed
import CommentTags.Path

/-!
Folders, files and symbolic links by the names that lead to them from the root, and the way a
path takes through them.
-/
namespace CommentTags

/-- Contents are equal if their bytes are. -/
instance decidableEqBytes : DecidableEq ByteArray := fun a b =>
  decidable_of_iff (a.data = b.data) ⟨ByteArray.ext, fun h => h ▸ rfl⟩

inductive FileEntry where
  | folder
  | file (content : ByteArray)
  | link (target : Path)
deriving DecidableEq

/-- The entries below the root. -/
structure FileTree where
  entries : Keyed (List Text) FileEntry
deriving DecidableEq

/-- Where a path leads: to an entry, or to a name in a folder that has no such entry. -/
structure Place where
  names : List Text
  entry : Option FileEntry
deriving DecidableEq

namespace FileTree

def empty : FileTree := ⟨.empty⟩

instance : Inhabited FileTree := ⟨empty⟩

variable (t : FileTree)

/-- The entry under the names; the root is a folder. -/
def get? (names : List Text) : Option FileEntry :=
  if names = [] then some .folder else t.entries.get? names

def put (names : List Text) (e : FileEntry) : FileTree := ⟨t.entries.insert names e⟩

/-- The names in a folder. -/
def children (names : List Text) : List Text :=
  t.entries.keys.filterMap fun k =>
    match k.getLast? with
    | some name => if k.dropLast = names then some name else none
    | none => none

/-- The tree without an entry and all that is below it. -/
def erase (names : List Text) : FileTree :=
  (t.entries.keys.filter fun k => names.isPrefixOf k).foldl (fun t k => ⟨t.entries.erase k⟩) t

/-- So many links may be followed on the way of one path. -/
def maxLinks : Nat := 40

/-- The way of the pieces of a path from a folder on. A link at the very end is followed only
if asked; links on the way always are. -/
def resolve (followsLast : Bool) (links : Nat) (here : List Text) (pieces : List Text) :
    Except FileFailure Place :=
  match pieces with
  | [] => .ok ⟨here, t.get? here⟩
  | piece :: rest =>
    if t.get? here ≠ some .folder then .error .notADirectory
    else if Path.isSilent piece then resolve followsLast links here rest
    else if piece = ['.', '.'] then resolve followsLast links here.dropLast rest
    else
      let there := here ++ [piece]
      match t.get? there with
      | some (.link target) =>
        if rest.isEmpty && !followsLast then .ok ⟨there, some (.link target)⟩
        else
          match links with
          | 0 => .error .tooManyLinks
          | links + 1 =>
            let start := if target.isAbsolute then [] else here
            resolve followsLast links start (target.pieces ++ rest)
      | some _ => resolve followsLast links there rest
      | none => if rest.isEmpty then .ok ⟨there, none⟩ else .error .notFound
termination_by (links, pieces.length)

/-- Where an absolute path leads. -/
def place (followsLast : Bool) (p : Path) : Except FileFailure Place :=
  t.resolve followsLast maxLinks [] p.pieces

/-- The entry that a path leads to, behind all links. -/
def entry (p : Path) : Except FileFailure FileEntry := do
  match (← t.place true p).entry with
  | some e => return e
  | none => .error .notFound

def isFile (p : Path) : Bool :=
  match t.entry p with
  | .ok (.file _) => true
  | _ => false

def isFolder (p : Path) : Bool :=
  match t.entry p with
  | .ok .folder => true
  | _ => false

def exists? (p : Path) : Bool := (t.entry p).toOption.isSome

/-- The path of the same file without links and dots. -/
def canonical (p : Path) : Except FileFailure Path := do
  let place ← t.place true p
  if place.entry.isNone then .error .notFound
  else return Path.ofNames place.names

end FileTree

end CommentTags
