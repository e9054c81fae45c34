import CommentTags.Files.Listing
import CommentTags.Ignore.Rules

/-!
The lists of files to ignore that apply in a folder: its own and those of the folders around it.
The nearest list decides.
-/
namespace CommentTags

/-- The lists of one folder. Lists for a repository go no further up than its first folder. -/
structure IgnoreLevel where
  general : IgnoreList
  repository : IgnoreList
  excluded : IgnoreList
  beginsRepository : Bool
deriving DecidableEq, Repr

namespace IgnoreLevel

/-- The lists in a folder, and the lines in them that are no rules. -/
def ofFolder (t : FileTree) (gitIgnore : Bool) (names : List Text) :
    IgnoreLevel × List (Path × IgnoreFlaw) :=
  let folder := Path.ofNames names
  let read (isUsed : Bool) (p : Path) : IgnoreList × List (Path × IgnoreFlaw) :=
    if isUsed then
      let (list, flaws) := IgnoreList.ofFile t names.length p
      (list, flaws.map (p, ·))
    else (.empty, [])
  let (general, f₁) := read true (folder.join ".ignore")
  let (repository, f₂) := read gitIgnore (folder.join ".gitignore")
  let (excluded, f₃) := read gitIgnore (folder.join ".git/info/exclude")
  (⟨general, repository, excluded, gitIgnore && t.exists? (folder.join ".git")⟩, f₁ ++ f₂ ++ f₃)

end IgnoreLevel

/-- The levels from the innermost folder outwards, and a list for all repositories. -/
structure IgnoreLevels where
  levels : List IgnoreLevel
  global : IgnoreList
deriving DecidableEq, Repr

namespace IgnoreLevels

/-- The levels up to the one that begins a repository. -/
def withinRepository : List IgnoreLevel → List IgnoreLevel
  | [] => []
  | l :: ls => if l.beginsRepository then [l] else l :: withinRepository ls

variable (s : IgnoreLevels)

/-- What the lists say about a file. Lists for repositories count only in one. -/
def verdict? (names : List Text) (isFolder : Bool) : Option Verdict :=
  let ask (l : IgnoreList) := l.verdict? names isFolder
  let general := s.levels.findSome? fun l => ask l.general
  if s.levels.any IgnoreLevel.beginsRepository then
    let near := withinRepository s.levels
    general.or <| (near.findSome? fun l => ask l.repository).or <|
      (near.findSome? fun l => ask l.excluded).or (ask s.global)
  else general

def enter (l : IgnoreLevel) : IgnoreLevels := { s with levels := l :: s.levels }

/-- The levels of the folders around a folder, with the lines in them that are no rules. -/
def above (t : FileTree) (gitIgnore : Bool) (globalFile : Path) (names : List Text) :
    IgnoreLevels × List (Path × IgnoreFlaw) :=
  let read := (List.range names.length).map fun n => IgnoreLevel.ofFolder t gitIgnore (names.take n)
  let global := if gitIgnore then (IgnoreList.ofFile t 0 globalFile).1 else .empty
  (⟨(read.map Prod.fst).reverse, global⟩, read.flatMap Prod.snd)

end IgnoreLevels

end CommentTags
