import CommentTags.Settings
import CommentTags.Toml.Reader

/-!
Settings out of the table that a document describes. What is left out has its standard value,
and keys that mean nothing are passed over.
-/
namespace CommentTags

namespace Toml

/-- The fields of a record: a table, or a list of the fields' values in their order. -/
def record? (names : List String) : Value → Option Fields
  | .table _ fields => some fields
  | .array _ vs => some ((names.map String.toList).zip vs)
  | _ => none

variable {α : Type} (fs : Fields) (name : String)

/-- The value of a field if it is there. -/
def optional (read : Value → Option α) : Option (Option α) :=
  (fs.get? name.toList).mapM read

def withDefault (standard : α) (read : Value → Option α) : Option α :=
  (optional fs name read).map fun v => v.getD standard

def string : Value → Option String
  | .string t => some (String.ofList t)
  | _ => none

def bool : Value → Option Bool
  | .boolean b => some b
  | _ => none

def natural : Value → Option Nat
  | .integer i => if 0 ≤ i then some i.toNat else none
  | _ => none

/-- A whole number of 32 bits. -/
def shortInteger : Value → Option Int32
  | .integer i =>
    if Int32.minValue.toInt ≤ i ∧ i ≤ Int32.maxValue.toInt then some (Int32.ofInt i) else none
  | _ => none

def list (read : Value → Option α) : Value → Option (List α)
  | .array _ vs => vs.mapM read
  | _ => none

def keyed (read : Value → Option α) : Value → Option (Keyed String α)
  | .table _ fields => do
    let es ← fields.mapM fun (key, v) => do return (String.ofList key, ← read v)
    return Keyed.ofList es
  | _ => none

end Toml

open Toml

namespace Settings

def tag? (v : Value) : Option Tag := do
  let fs ← record? ["name", "pattern", "color", "priority", "icon"] v
  let name ← string (← fs.get? "name".toList)
  return ⟨name, ← optional fs "pattern" string, ← optional fs "color" string,
    ← optional fs "icon" string, ← optional fs "priority" shortInteger⟩

def scan? (v : Value) : Option ScanSettings := do
  let standard := ScanSettings.standard
  let fs ← record? ["include", "exclude", "debounce_ms", "max_file_size", "hidden", "git_ignore",
    "follow_links"] v
  return ⟨← withDefault fs "include" standard.included string,
    ← withDefault fs "exclude" standard.excluded (Toml.list string),
    ← withDefault fs "debounce_ms" standard.debounceMs natural,
    ← withDefault fs "max_file_size" standard.maxFileSize natural,
    ← withDefault fs "hidden" standard.skipHidden bool,
    ← withDefault fs "git_ignore" standard.gitIgnore bool,
    ← withDefault fs "follow_links" standard.followLinks bool⟩

def highlight? (v : Value) : Option HighlightSettings := do
  let standard := HighlightSettings.standard
  let fs ← record? ["default_color", "background_alpha"] v
  return ⟨← withDefault fs "default_color" standard.defaultColor string,
    ← withDefault fs "background_alpha" standard.backgroundAlpha string⟩

def language? (v : Value) : Option LanguageSettings := do
  let fs ← record? ["line", "block_start", "block_end", "extensions"] v
  return ⟨← optional fs "line" string, ← optional fs "block_start" string,
    ← optional fs "block_end" string, ← withDefault fs "extensions" [] (Toml.list string)⟩

def ofFields? (fs : Fields) : Option Settings := do
  return ⟨← withDefault fs "tags" Tag.standard (Toml.list tag?),
    ← withDefault fs "scan" .standard scan?,
    ← withDefault fs "highlight" .standard highlight?,
    ← withDefault fs "languages" .empty (keyed language?)⟩

/-- Settings as they are written in a document. -/
def read (t : Text) : Except SettingsError Settings :=
  match (Toml.read? t).bind ofFields? with
  | some s => .ok s
  | none => .error .unreadable

end Settings

end CommentTags
