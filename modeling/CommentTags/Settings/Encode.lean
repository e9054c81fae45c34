import CommentTags.Settings
import CommentTags.Toml.Number
import CommentTags.Toml.Writer

/-!
Settings as a document: a header for each tag, each section and each language. Fields without a
value are left out.
-/
namespace CommentTags.Settings

open Toml

def pair (name : String) (v : Value) : Item := .pair [name.toList] v

def stringPair (name : String) (s : String) : Item := pair name (.string s.toList)

def numberPair (name : String) (i : Int) : Item := pair name (.integer i)

def flagPair (name : String) (b : Bool) : Item := pair name (.boolean b)

def listPair (name : String) (ss : List String) : Item :=
  pair name (.array false (ss.map fun s => .string s.toList))

def tagItems (t : Tag) : List Item :=
  [.header ["tags".toList] true, stringPair "name" t.name] ++
  (t.pattern.map (stringPair "pattern")).toList ++
  (t.color.map (stringPair "color")).toList ++
  (t.priority.map fun p => numberPair "priority" p.toInt).toList ++
  (t.icon.map (stringPair "icon")).toList

/-- An empty list of tags has no headers, so it is written as a list. -/
def tagListItems (tags : List Tag) : List Item :=
  if tags.isEmpty then [listPair "tags" []] else tags.flatMap tagItems

def scanItems (s : ScanSettings) : List Item :=
  [.header ["scan".toList] false,
    stringPair "include" s.included,
    listPair "exclude" s.excluded,
    numberPair "debounce_ms" s.debounceMs,
    numberPair "max_file_size" s.maxFileSize,
    flagPair "hidden" s.skipHidden,
    flagPair "git_ignore" s.gitIgnore,
    flagPair "follow_links" s.followLinks]

def highlightItems (h : HighlightSettings) : List Item :=
  [.header ["highlight".toList] false,
    stringPair "default_color" h.defaultColor,
    stringPair "background_alpha" h.backgroundAlpha]

def languageItems (name : String) (l : LanguageSettings) : List Item :=
  [.header ["languages".toList, name.toList] false] ++
  (l.line.map (stringPair "line")).toList ++
  (l.opening.map (stringPair "block_start")).toList ++
  (l.closing.map (stringPair "block_end")).toList ++
  [listPair "extensions" l.extensions]

def languageListItems (ls : List (String × LanguageSettings)) : List Item :=
  if ls.isEmpty then [.header ["languages".toList] false]
  else ls.flatMap fun (name, l) => languageItems name l

variable (s : Settings)

def items : List Item :=
  tagListItems s.tags ++ scanItems s.scan ++ highlightItems s.highlight ++
    languageListItems s.languages.entries

/-- Whole numbers in a document have 64 bits with their sign. -/
def isWritable : Bool :=
  Toml.fits s.scan.debounceMs && Toml.fits s.scan.maxFileSize

/-- The document, unless a number is too large for it. -/
def write : Except SettingsError Text :=
  if s.isWritable then .ok (Toml.write s.items) else .error .unwritable

end CommentTags.Settings
