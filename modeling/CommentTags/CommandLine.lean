import CommentTags.CommandLine.Arguments
import CommentTags.Report
import CommentTags.Settings.Files
import CommentTags.Workspace.Change

/-!
A run of the program: its arguments and the files that it finds decide what it prints and writes.
-/
namespace CommentTags

/-- Why a run fails. -/
inductive CommandError where
  | cannotOpen (path : Path)
  | cannotLoad (file : Option Path)
  | noUsableTags
  | settings (error : SettingsError)
  | failure (failure : Failure)
deriving DecidableEq, Repr

def CommandError.message : CommandError → String
  | cannotOpen p => s!"Cannot open {p}"
  | cannotLoad (some p) => s!"Cannot load config {p}"
  | cannotLoad none => "Cannot load config"
  | noUsableTags => "No usable tags configured"
  | settings e => e.message
  | failure f => f.message

/-- How a run ends: its exit code, what it printed, and the files afterwards. -/
structure Exit where
  code : Nat
  output : Text
  error : Option String
  files : FileTree

namespace CommandLine

def versionText : String := "tagscan 0.1.0\n"

def usageText : String :=
  "Usage: tagscan [OPTIONS] [PATH]\n"

/-- The settings for a run; tags among the arguments replace those that are set. -/
def settings (h : Host) (a : Arguments) (root : Path) : Except CommandError Settings := do
  let s ← match a.settingsFile with
    | some p => (Settings.load h.files (h.absolute p)).mapError fun _ => .cannotLoad (some p)
    | none => (Settings.loadFor h root).mapError fun _ => .cannotLoad none
  return if a.tags.isEmpty then s else { s with tags := a.tags.map Tag.named }

/-- A scanner for the settings. Tags that cannot be used are left out as long as any other can
be used. -/
def scanner (s : Settings) : Except CommandError Scanner := do
  let languages ← s.languageTable.mapError .settings
  let made := (Scanner.ofLanguages languages).configure s.tags
  if !made.answer.isEmpty && made.scanner.tags.isEmpty then .error .noUsableTags
  else return made.scanner

/-- The report of a scan of all files. -/
def scan (h : Host) (a : Arguments) (root : Path) (s : Settings) : Except CommandError Text := do
  let scanner ← scanner s
  let w ← (Workspace.openFolder h.files root s).mapError .failure
  let done ← (w.scanMany h scanner (a.included.getD s.scan.included) a.excluded).mapError .failure
  let cache := done.scanner.cache
  let skipped := done.answer.skipped
  return if a.json then Report.json cache skipped else Report.tree root cache skipped

/-- Writes the settings into the folder, or scans it. -/
def execute (h : Host) (a : Arguments) : FileTree × Except CommandError Text :=
  match h.files.canonical (h.absolute a.folder) with
  | .error _ => (h.files, .error (.cannotOpen a.folder))
  | .ok root =>
    match settings h a root with
    | .error e => (h.files, .error e)
    | .ok s =>
      if a.init then
        let p := root.join Settings.fileName
        let (files, written) := s.save h.files p
        match written with
        | .error e => (files, .error (.settings e))
        | .ok () => (files, .ok s!"Wrote {p}\n".toList)
      else (h.files, scan h a root s)

/-- Runs the program. Wrong arguments end it with code 2, a failure with code 1. -/
def run (h : Host) (arguments : List String) : Exit :=
  match Arguments.read arguments with
  | .error (.error e) => ⟨2, [], some s!"error: {e.message}", h.files⟩
  | .error .help => ⟨0, usageText.toList, none, h.files⟩
  | .error .version => ⟨0, versionText.toList, none, h.files⟩
  | .ok a =>
    match execute h a with
    | (files, .ok output) => ⟨0, output, none, files⟩
    | (files, .error e) => ⟨1, [], some s!"Error: {e.message}", files⟩

end CommandLine

end CommentTags
