import CommentTags.Files.Tree

/-!
Reading and changing the files of a tree.
-/
namespace CommentTags.FileTree

variable (t : FileTree)

/-- The size of a folder as the system states it. -/
def folderSize : Nat := 4096

/-- The size in bytes of what a path leads to. -/
def size (p : Path) : Except FileFailure Nat := do
  match ← t.entry p with
  | .file content => return content.size
  | _ => return folderSize

/-- The text of bytes in UTF-8. -/
def decode (content : ByteArray) : Except FileFailure Text :=
  match String.fromUTF8? content with
  | some s => .ok s.toList
  | none => .error .notUtf8

def readText (p : Path) : Except FileFailure Text := do
  match ← t.entry p with
  | .file content => decode content
  | _ => .error .isADirectory

/-- Writes a file in a folder that is there; a link is followed, even to nothing. -/
def writeFile (p : Path) (content : ByteArray) : Except FileFailure FileTree := do
  let place ← t.place true p
  match place.entry with
  | some .folder => .error .isADirectory
  | _ => return t.put place.names (.file content)

def writeText (p : Path) (content : Text) : Except FileFailure FileTree :=
  t.writeFile p (String.ofList content).toUTF8

/-- Makes the folders that are missing on the way of `pieces`, of which `before` are there. -/
def makeFoldersFrom (t : FileTree) (before : List Text) : List Text → Except FileFailure FileTree
  | [] => .ok t
  | piece :: rest => do
    let way := before ++ [piece]
    let place ← t.resolve true maxLinks [] way
    match place.entry with
    | some .folder => makeFoldersFrom t way rest
    | some _ => .error (if rest.all Path.isSilent then .alreadyExists else .notADirectory)
    | none =>
      let own ← t.resolve false maxLinks [] way
      if own.entry.isSome then .error .alreadyExists
      else makeFoldersFrom (t.put place.names .folder) way rest

/-- Makes a folder with all the folders around it. -/
def makeFolders (p : Path) : Except FileFailure FileTree :=
  makeFoldersFrom t [] p.pieces

/-- Makes an entry, with all the folders around it. -/
def make (p : Path) (e : FileEntry) : Except FileFailure FileTree :=
  match e with
  | .folder => t.makeFolders p
  | .file content => do (← t.makeFolders ((p.parent?).getD "/")).writeFile p content
  | .link target => do
    let t ← t.makeFolders ((p.parent?).getD "/")
    let place ← t.place false p
    if place.entry.isSome then .error .alreadyExists
    else return t.put place.names (.link target)

/-- Removes what a path leads to, with all that is below it; a link itself is removed. -/
def remove (p : Path) : Except FileFailure FileTree := do
  let place ← t.place false p
  if place.entry.isNone then .error .notFound
  else return t.erase place.names

end CommentTags.FileTree
