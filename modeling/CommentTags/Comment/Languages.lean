import CommentTags.Comment.Markers
import CommentTags.Text.Letters

/-!
The comment markers of languages, by an identifier whose case does not count.
-/
namespace CommentTags

namespace Languages

def cFamily : List String :=
  ["javascript", "javascriptreact", "typescript", "typescriptreact", "java", "c", "cpp",
    "csharp", "go", "rust", "swift", "kotlin", "scala", "dart", "php", "scss", "less", "jsonc"]

def hashFamily : List String :=
  ["python", "shellscript", "sh", "bash", "zsh", "ruby", "perl", "r", "yaml", "toml",
    "dockerfile", "makefile", "elixir"]

def markupFamily : List String :=
  ["html", "xml", "markdown", "vue", "svelte"]

def builtin : List (String × Markers) :=
  cFamily.map (·, .lineAndBlock "//" "/*" "*/") ++
  hashFamily.map (·, .lineOnly "#") ++
  markupFamily.map (·, .blockOnly "<!--" "-->") ++
  [ ("css", .blockOnly "/*" "*/"),
    ("sql", .lineAndBlock "--" "/*" "*/"),
    ("lua", .lineOnly "--"),
    ("haskell", .lineAndBlock "--" "\x7b-" "-\x7d"),
    ("powershell", .lineAndBlock "#" "<#" "#>"),
    ("ini", .lineOnly ";") ]

end Languages

/-- One entry for each known identifier, in lower case. -/
structure Languages where
  entries : List (String × Markers)
deriving DecidableEq, Repr

namespace Languages

def standard : Languages := ⟨builtin⟩

instance : Inhabited Languages := ⟨standard⟩

/-- Later entries replace earlier ones of the same name. -/
def insert (t : Languages) (name : String) (m : Markers) : Languages :=
  let key := lowerCase name
  ⟨t.entries.filter (fun e => e.1 != key) ++ [(key, m)]⟩

/-- The built-in languages and then the user's. -/
def withOverrides (overrides : List (String × Markers)) : Languages :=
  overrides.foldl (fun t e => t.insert e.1 e.2) standard

/-- The identifier as it stands is tried first, then its lower case. -/
def get? (t : Languages) (name : String) : Option Markers :=
  (t.entries.lookup name).or (t.entries.lookup (lowerCase name))

def contains (t : Languages) (name : String) : Bool :=
  (t.get? name).isSome

def size (t : Languages) : Nat := t.entries.length

/-- The known identifiers in increasing order. -/
def names (t : Languages) : List String :=
  (t.entries.map Prod.fst).mergeSort (· ≤ ·)

end Languages

end CommentTags
