import CommentTags.Ignore.Levels
import CommentTags.Settings

/-!
The files below a folder, less those that settings and ignore lists leave out.
-/
namespace CommentTags

/-- A folder on the way: the names by which it was reached, and those where it really is. -/
structure Visited where
  shown : List Text
  actual : List Text
deriving DecidableEq, Repr

namespace FileTree

variable (t : FileTree) (settings : ScanSettings)

/-- Whether a file is walked past. Where no list speaks, hidden files are. -/
def isLeftOut (levels : IgnoreLevels) (names : List Text) (isFolder : Bool) : Bool :=
  match levels.verdict? names isFolder with
  | some .ignored => true
  | some .kept => false
  | none => settings.skipHidden && (names.getLast?.bind List.head?) == some '.'

/-- What a name in a folder is: a folder with its actual names, a file, or an entry that is not
listed; links are followed only if the settings say so. -/
def classify (way : List Visited) (shown actual : List Text) : Except SkippedFile Place :=
  let p := Path.ofNames shown
  let fail (f : FileFailure) : Except SkippedFile Place :=
    .error ⟨p, s!"{p}: IO error for operation on {p}: {f.message}"⟩
  match t.get? actual with
  | some (.link target) =>
    if !settings.followLinks then .ok ⟨actual, some (.link target)⟩
    else
      match t.place true p with
      | .error f => fail f
      | .ok place =>
        match place.entry with
        | none => fail .notFound
        | some .folder =>
          match way.find? fun v => v.actual = place.names with
          | some v => .error ⟨p,
            s!"File system loop found: {p} points to an ancestor {Path.ofNames v.shown}"⟩
          | none => .ok place
        | some _ => .ok place
  | entry => .ok ⟨actual, entry⟩

/-- The files below the first folder of the way, by the names that lead to them. -/
def walkFolder (fuel : Nat) (levels : IgnoreLevels) (way : List Visited) : Listing :=
  match fuel, way with
  | 0, _ => .empty
  | _, [] => .empty
  | fuel + 1, folder :: _ =>
    Listing.concat <| (t.children folder.actual).map fun name =>
      let shown := folder.shown ++ [name]
      match t.classify settings way shown (folder.actual ++ [name]) with
      | .error f => ⟨[], [f]⟩
      | .ok ⟨actual, some .folder⟩ =>
        if isLeftOut settings levels shown true then .empty
        else
          let own := (IgnoreLevel.ofFolder t settings.gitIgnore shown).1
          walkFolder fuel (levels.enter own) (⟨shown, actual⟩ :: way)
      | .ok ⟨_, some (.file _)⟩ =>
        if isLeftOut settings levels shown false then .empty else .ofFile (Path.ofNames shown)
      | .ok _ => .empty

/-- No way through distinct folders is longer, also if links shorten it in between. -/
def maxWay : Nat := (t.entries.size + 2) * (t.entries.size + 2)

/-- Lines that are no rules in lists around the walked folder are reported once. -/
def flawListing (flaws : List (Path × IgnoreFlaw)) : Listing :=
  match flaws with
  | [] => .empty
  | (p, _) :: _ =>
    .ofUnreadable p <| "\n".intercalate <| flaws.map fun (p, f) =>
      s!"{p}: line {f.line}: {f.error.message}"

/-- The files below the folder with the given names. -/
def walk (globalIgnore : Path) (names : List Text) : Listing :=
  let (levels, flaws) := IgnoreLevels.above t settings.gitIgnore globalIgnore names
  let own := (IgnoreLevel.ofFolder t settings.gitIgnore names).1
  flawListing flaws ++ t.walkFolder settings t.maxWay (levels.enter own) [⟨names, names⟩]

end FileTree

end CommentTags
