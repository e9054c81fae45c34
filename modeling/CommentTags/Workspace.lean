import CommentTags.Failure
import CommentTags.Files.Host
import CommentTags.Files.Walk
import CommentTags.Scanner.Batch

/-!
A folder whose files are scanned.
-/
namespace CommentTags

/-- A file as a document. -/
def Document.load (t : FileTree) (extensions : Keyed String String) (p : Path) :
    Except Failure Document :=
  match t.readText p with
  | .ok content => .ok (Document.ofFile extensions p content)
  | .error f => .error (.buffer (.file f))

structure Workspace where
  root : Path
  scan : ScanSettings
  extensions : Keyed String String
deriving DecidableEq

namespace Workspace

/-- The workspace of a folder, under the path without links that leads to it. -/
def openFolder (t : FileTree) (p : Path) (settings : Settings) : Except Failure Workspace :=
  match t.canonical p with
  | .error f => .error (.file f)
  | .ok root =>
    if t.isFolder root then .ok ⟨root, settings.scan, settings.extensions⟩
    else .error (.fileNotFound root)

/-- Extensions of files that hold no text. -/
def binaryExtensions : List String :=
  [ "png", "jpg", "jpeg", "gif", "bmp", "ico", "webp", "tiff",
    "mp3", "mp4", "wav", "avi", "mov", "ogg", "webm",
    "zip", "tar", "gz", "bz2", "xz", "7z", "rar",
    "exe", "dll", "so", "dylib", "bin", "o", "a", "lib", "rlib",
    "pdf", "ttf", "otf", "woff", "woff2",
    "db", "sqlite", "class", "pyc", "wasm" ]

def mayHoldText (p : Path) : Bool :=
  match p.extension? with
  | some e => !binaryExtensions.contains (lowerCase e)
  | none => true

variable (w : Workspace)

def relative? (p : Path) : Option Path := p.relativeTo? w.root

/-- The filter for an including glob, less the globs of the settings and one more. -/
def filter (included : String) (excluded : Option String) : Except Failure FileFilter :=
  match FileFilter.read included (w.scan.excluded ++ excluded.toList) with
  | .ok f => .ok f
  | .error e => .error (.glob e)

def isListed (f : FileFilter) (p : Path) : Bool :=
  (match w.relative? p with
    | some q => f.passes q
    | none => false) && mayHoldText p

/-- The names of the root. -/
def rootNames : List Text := w.root.pieces.filter fun piece => !Path.isSilent piece

/-- The files that are scanned, in their order. -/
def list (h : Host) (included : String) (excluded : Option String) : Except Failure Listing := do
  let f ← w.filter included excluded
  let walked := h.files.walk w.scan h.globalIgnore w.rootNames
  return ⟨(walked.files.filter (w.isListed f)).mergeSort Path.le, walked.unreadable⟩

/-- A file as a document, unless it is too large. -/
def openFile (t : FileTree) (p : Path) : Except Failure Document := do
  let size ← (t.size p).mapError Failure.file
  let limit := w.scan.maxFileBytes
  if limit < size then .error (.fileTooLarge p size limit)
  else Document.load t w.extensions p

/-- Scans the files of a listing. -/
def scanListing (t : FileTree) (s : Scanner) (listing : Listing) : Scanner.Outcome Batch :=
  s.scanListing listing fun p => (w.openFile t p).map Document.source

/-- Scans all files that are listed; fails only if a glob is none. -/
def scanMany (h : Host) (s : Scanner) (included : String) (excluded : Option String) :
    Except Failure (Scanner.Outcome Batch) := do
  return w.scanListing h.files s (← w.list h included excluded)

end Workspace

end CommentTags
