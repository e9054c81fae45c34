import CommentTags.Buffer
import CommentTags.Keyed
import CommentTags.Path
import CommentTags.Text.Letters

/-!
Documents: a text with an identity and a language.
-/
namespace CommentTags

abbrev DocumentId := String

namespace Language

/-- The language of files that are not text. -/
def binary : String := "binary"

def plainText : String := "plaintext"

/-- Languages with the extensions that stand for them. -/
def extensionTable : List (String × List String) :=
  [ ("rust", ["rs"]), ("python", ["py", "pyw"]), ("javascript", ["js", "mjs", "cjs"]),
    ("javascriptreact", ["jsx"]), ("typescript", ["ts", "mts", "cts"]),
    ("typescriptreact", ["tsx"]), ("html", ["html", "htm"]), ("xml", ["xml", "xsd", "svg"]),
    ("css", ["css"]), ("scss", ["scss"]), ("less", ["less"]), ("json", ["json"]),
    ("jsonc", ["jsonc"]), ("yaml", ["yaml", "yml"]), ("toml", ["toml"]), ("ini", ["ini", "cfg"]),
    ("markdown", ["md", "markdown"]), ("c", ["c", "h"]),
    ("cpp", ["cpp", "hpp", "cc", "cxx", "hh"]), ("csharp", ["cs"]), ("go", ["go"]),
    ("java", ["java"]), ("kotlin", ["kt", "kts"]), ("scala", ["scala"]), ("swift", ["swift"]),
    ("dart", ["dart"]), ("php", ["php"]), ("ruby", ["rb"]), ("perl", ["pl", "pm"]), ("r", ["r"]),
    ("elixir", ["ex", "exs"]), ("lua", ["lua"]), ("haskell", ["hs"]), ("sql", ["sql"]),
    ("powershell", ["ps1", "psm1"]), ("shellscript", ["sh", "bash", "zsh"]), ("vue", ["vue"]),
    ("svelte", ["svelte"]), (plainText, ["txt", "text"]) ]

/-- An extension that no language has is a language of its own. -/
def ofExtension (extension : String) : String :=
  match extensionTable.find? fun e => e.2.contains extension with
  | some (language, _) => language
  | none => extension

/-- The language of a file by its name. Some names decide by themselves; then the given
extensions come before the known ones. Case does not count. -/
def ofPath (extensions : Keyed String String) (p : Path) : String :=
  let name := lowerCase (String.ofList (p.fileName?.getD []))
  if name = "dockerfile" then "dockerfile"
  else if name = "makefile" ∨ name = "gnumakefile" then "makefile"
  else
    match p.extension? with
    | none => plainText
    | some e => (extensions.get? (lowerCase e)).getD (ofExtension (lowerCase e))

end Language

/-- An open document; one without a path was never a file. -/
structure Document where
  id : DocumentId
  buffer : Buffer
  path : Option Path
  language : String
  isClosed : Bool
deriving DecidableEq, Repr

namespace Document

def ofText (id : DocumentId) (language : String) (t : Text) : Document :=
  ⟨id, .ofText t, none, language, false⟩

def untitledId (name : String) : DocumentId := s!"untitled:{name}"

def untitled (name language : String) (t : Text) : Document :=
  ofText (untitledId name) language t

/-- A file with its content; a text with a NUL in it is no text. -/
def ofFile (extensions : Keyed String String) (p : Path) (content : Text) : Document :=
  let buffer := Buffer.ofText content
  let language := if buffer.hasNul then Language.binary else Language.ofPath extensions p
  ⟨p, buffer, some p, language, false⟩

variable (d : Document)

def setLanguage (language : String) : Document := { d with language }

def close : Document := { d with isClosed := true }

def lineText? (i : Nat) : Option Text :=
  if d.isClosed then none else (d.buffer.line? i).map Line.text

/-- Closed documents, those that are not text, and empty ones without a file are not scanned. -/
def isScannable : Bool :=
  !d.isClosed && d.language != Language.binary && !(d.path.isNone && d.buffer.isEmpty) &&
    !d.buffer.hasNul

/-- Exchanges the text by an edited one. -/
def withBuffer (buffer : Buffer) : Document := { d with buffer }

def insert (p : Position) (t : Text) : Except BufferError Document :=
  (d.buffer.insertAt p t).map d.withBuffer

/-- The removed text and the document without it. -/
def delete (start stop : Position) : Except BufferError (Text × Document) := do
  let i ← d.buffer.index start
  let j ← d.buffer.index stop
  let (removed, rest) ← d.buffer.delete i j
  return (removed, d.withBuffer rest)

/-- The old text of the line and the document with the new one. -/
def replaceLine (i : Nat) (t : Text) : Except BufferError (Text × Document) := do
  let (old, edited) ← d.buffer.replaceLine i t
  return (old, d.withBuffer edited)

end Document

end CommentTags
