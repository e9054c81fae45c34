import CommentTags.Cache
import CommentTags.Event
import CommentTags.Failure

/-!
Scanning documents for tags. A scanner keeps what the latest complete scan of each document
found; an interrupted scan leaves nothing behind.
-/
namespace CommentTags

/-- What a scan asks of a document. A line that is missing below the count means that the
document went away. -/
structure Source where
  id : DocumentId
  language : String
  lineCount : Nat
  lineText : Nat → Option Text
  isScannable : Bool

def Document.source (d : Document) : Source :=
  let lines := d.buffer.lines.toArray
  { id := d.id
    language := d.language
    lineCount := lines.size
    lineText := fun i => if d.isClosed then none else lines[i]?.map Line.text
    isScannable := d.isScannable }

/-- The tags on `count` lines from `line` on, and whether all these lines were there. -/
def Source.search (d : Source) (tags : TagSet) (markers : Markers) (state : BlockState)
    (line : Nat) : (count : Nat) → List FoundTag × Bool
  | 0 => ([], true)
  | count + 1 =>
    match d.lineText line with
    | none => ([], false)
    | some t =>
      let (comment, state) := markers.locate state t
      let found := (comment.bind (tags.find? t)).map (FoundTag.ofMatch d.id line t)
      let (rest, isWhole) := d.search tags markers state (line + 1) count
      (found.toList ++ rest, isWhole)

structure Scanner where
  tags : TagSet
  languages : Languages
  cache : Cache
deriving DecidableEq

namespace Scanner

/-- An answer, the scanner afterwards, and the events on the way. -/
structure Outcome (α : Type) where
  answer : α
  scanner : Scanner
  events : List Event

/-- A scanner for the standard tags. -/
def ofLanguages (languages : Languages) : Scanner :=
  ⟨(TagSet.compile Tag.standard).1, languages, .empty⟩

def standard : Scanner := ofLanguages .standard

instance : Inhabited Scanner := ⟨standard⟩

variable (s : Scanner)

/-- Takes the tags that can be used; the answer holds the others. -/
def configure (tags : List Tag) : Outcome (List RejectedTag) :=
  let (set, rejected) := TagSet.compile tags
  ⟨rejected, { s with tags := set }, [.tagsConfigured set.size rejected.length]⟩

/-- A scanner as the settings want it; all their tags must be usable. -/
def ofSettings (settings : Settings) : Except Failure Scanner :=
  match settings.languageTable with
  | .error e => .error (.settings e)
  | .ok languages =>
    let made := (ofLanguages languages).configure settings.tags
    if made.answer.isEmpty then .ok made.scanner else .error (.tags made.answer)

/-- Keeps the tags of a document that was scanned to its end. -/
def keep (id : DocumentId) (found : List FoundTag) : Outcome (List FoundTag) :=
  ⟨found, { s with cache := s.cache.put id found }, [.documentScanned id found.length]⟩

/-- A document in a language without known comments has no tags. -/
def scan (d : Source) : Outcome (List FoundTag) :=
  if !d.isScannable then ⟨[], s, []⟩
  else
    match s.languages.get? d.language with
    | none => s.keep d.id []
    | some markers =>
      let (found, isWhole) := d.search s.tags markers .outside 0 d.lineCount
      if isWhole then s.keep d.id found else ⟨found, s, []⟩

/-- Drops what is kept of one document or of all. -/
def invalidate (id : Option DocumentId) : Outcome Unit :=
  ⟨(), { s with cache := s.cache.invalidate id },
    [match id with
      | some id => .cacheInvalidated id
      | none => .cacheCleared]⟩

end Scanner

end CommentTags
