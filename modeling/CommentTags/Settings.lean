import CommentTags.Comment.Languages
import CommentTags.Files.Failure
import CommentTags.Keyed
import CommentTags.Tag

/-!
What a user can set: the tags, which files are scanned, colors, and further languages.
-/
namespace CommentTags

/-- Which files are scanned, and how. Sizes are in units of 1024 bytes. -/
structure ScanSettings where
  included : String
  excluded : List String
  debounceMs : Nat
  maxFileSize : Nat
  skipHidden : Bool
  gitIgnore : Bool
  followLinks : Bool
deriving DecidableEq, Repr

/-- The color of tags that have none, and what is added to a color for its background. -/
structure HighlightSettings where
  defaultColor : String
  backgroundAlpha : String
deriving DecidableEq, Repr

structure LanguageSettings where
  line : Option String
  opening : Option String
  closing : Option String
  extensions : List String
deriving DecidableEq, Repr, Inhabited

structure Settings where
  tags : List Tag
  scan : ScanSettings
  highlight : HighlightSettings
  languages : Keyed String LanguageSettings
deriving DecidableEq

inductive SettingsError where
  | file (failure : FileFailure)
  | unreadable
  | unwritable
  | markers (error : MarkerError)
deriving DecidableEq, Repr

def SettingsError.message : SettingsError → String
  | file f => s!"IO error: {f.message}"
  | unreadable => "Parse error"
  | unwritable => "Serialize error"
  | markers e => s!"Language error: {e.message}"

namespace ScanSettings

def standard : ScanSettings where
  included := "**/*"
  excluded := ["**/node_modules/**", "**/.git/**", "**/target/**"]
  debounceMs := 300
  maxFileSize := 1024
  skipHidden := true
  gitIgnore := true
  followLinks := false

/-- The largest size that can be stated. -/
def maxBytes : Nat := UInt64.size - 1

/-- The size in bytes that a file may have. -/
def maxFileBytes (s : ScanSettings) : Nat :=
  min (s.maxFileSize * 1024) maxBytes

end ScanSettings

def HighlightSettings.standard : HighlightSettings := ⟨"#ffd700", "20"⟩

namespace LanguageSettings

def standard : LanguageSettings := ⟨none, none, none, []⟩

def markers (l : LanguageSettings) (name : String) : Except MarkerError Markers :=
  Markers.custom name (l.line.map String.toList) (l.opening.map String.toList)
    (l.closing.map String.toList)

end LanguageSettings

namespace Settings

def standard : Settings := ⟨Tag.standard, .standard, .standard, .empty⟩

instance : Inhabited Settings := ⟨standard⟩

variable (s : Settings)

/-- The markers of the user's languages. -/
def overrides : Except MarkerError (List (String × Markers)) :=
  s.languages.entries.mapM fun (name, l) => do return (name, ← l.markers name)

/-- The built-in languages and the user's. -/
def languageTable : Except SettingsError Languages :=
  match s.overrides with
  | .ok given => .ok (Languages.withOverrides given)
  | .error e => .error (.markers e)

/-- An extension as it is compared: without full stops before it, in lower case. -/
def extensionKey (extension : String) : String :=
  lowerCase (String.ofList (extension.toList.dropWhile (· = '.')))

/-- The languages of the user's file extensions. -/
def extensions : Keyed String String :=
  Keyed.ofList <| s.languages.entries.flatMap fun (name, l) =>
    l.extensions.map fun e => (extensionKey e, name)

end Settings

end CommentTags
