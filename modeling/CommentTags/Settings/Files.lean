import CommentTags.Files.Host
import CommentTags.Settings.Decode
import CommentTags.Settings.Encode

/-!
Settings in files: those of a folder come before the user's, and these before the standard ones.
-/
namespace CommentTags.Settings

/-- The name of the file with the settings of a folder. -/
def fileName : Path := ".tagscan.toml"

def load (t : FileTree) (p : Path) : Except SettingsError Settings :=
  match t.readText p with
  | .ok content => read content
  | .error f => .error (.file f)

/-- The settings for a folder; files that are not there are passed over. -/
def loadFor (h : Host) (root : Path) : Except SettingsError Settings :=
  let own := root.join fileName
  if h.files.isFile own then load h.files own
  else if h.files.isFile h.userSettings then load h.files h.userSettings
  else .ok standard

/-- The tree with the folders of a file, and whether the settings could be written into it. -/
def save (s : Settings) (t : FileTree) (p : Path) : FileTree × Except SettingsError Unit :=
  let made := match p.parent? with
    | some parent => t.makeFolders parent
    | none => .ok t
  match made with
  | .error f => (t, .error (.file f))
  | .ok t =>
    match s.write with
    | .error e => (t, .error e)
    | .ok content =>
      match t.writeText p content with
      | .error f => (t, .error (.file f))
      | .ok t => (t, .ok ())

end CommentTags.Settings
