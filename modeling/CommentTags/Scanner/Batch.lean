import CommentTags.Files.Listing
import CommentTags.Scanner

/-!
Scanning many files. A file that cannot be opened is skipped, and the others are scanned.
-/
namespace CommentTags

/-- The tags of all files that could be opened, the number of these, and the others. -/
structure Batch where
  tags : List FoundTag
  scanned : Nat
  skipped : List SkippedFile
deriving DecidableEq, Repr

namespace Batch

def empty : Batch := ⟨[], 0, []⟩

def ofScan (tags : List FoundTag) : Batch := ⟨tags, 1, []⟩

def ofSkipped (skipped : List SkippedFile) : Batch := ⟨[], 0, skipped⟩

instance : Append Batch where
  append a b := ⟨a.tags ++ b.tags, a.scanned + b.scanned, a.skipped ++ b.skipped⟩

end Batch

def SkippedFile.event (f : SkippedFile) : Event := .fileSkipped f.path f.reason

namespace Scanner

def scanFile (openFile : Path → Except Failure Source) (s : Scanner) (p : Path) :
    Outcome Batch :=
  match openFile p with
  | .ok d =>
    let o := s.scan d
    ⟨.ofScan o.answer, o.scanner, o.events⟩
  | .error e =>
    let f : SkippedFile := ⟨p, e.message⟩
    ⟨.ofSkipped [f], s, [f.event]⟩

/-- Scans the files in their order. -/
def scanFiles (openFile : Path → Except Failure Source) (s : Scanner) :
    List Path → Outcome Batch
  | [] => ⟨.empty, s, []⟩
  | p :: ps =>
    let first := scanFile openFile s p
    let rest := scanFiles openFile first.scanner ps
    ⟨first.answer ++ rest.answer, rest.scanner, first.events ++ rest.events⟩

/-- Scans all that is listed; what could not be read comes first among the skipped. -/
def scanListing (s : Scanner) (listing : Listing) (openFile : Path → Except Failure Source) :
    Outcome Batch :=
  let files := scanFiles openFile s listing.files
  let batch := Batch.ofSkipped listing.unreadable ++ files.answer
  ⟨batch, files.scanner,
    listing.unreadable.map SkippedFile.event ++ files.events ++
      [.batchFinished batch.scanned batch.skipped.length]⟩

end Scanner

end CommentTags
