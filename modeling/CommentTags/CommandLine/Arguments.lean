import CommentTags.Path

/-!
The arguments of the command line. An argument is judged when the next one is met, so that an
unknown one is told of before an earlier one that is given twice.
-/
namespace CommentTags

/-- What a run is asked to do. -/
structure Arguments where
  path : Option Path
  included : Option String
  excluded : Option String
  settingsFile : Option Path
  tags : List String
  json : Bool
  watch : Bool
  init : Bool
  verbosity : Nat
deriving DecidableEq, Repr, Inhabited

/-- Options with a value. -/
inductive ValueOption where
  | included
  | excluded
  | settingsFile
  | tag
deriving DecidableEq, Repr

/-- Options without one. -/
inductive FlagOption where
  | json
  | watch
  | init
  | verbose
  | help
  | version
deriving DecidableEq, Repr

inductive AnyOption where
  | value (o : ValueOption)
  | flag (o : FlagOption)
deriving DecidableEq, Repr

inductive ArgumentError where
  | unexpected (argument : String)
  | unexpectedValue (value option : String)
  | missingValue (option : String)
  | repeated (option : String)
deriving DecidableEq, Repr

/-- Why no run follows. -/
inductive Stop where
  | error (e : ArgumentError)
  | help
  | version
deriving DecidableEq, Repr

def ArgumentError.message : ArgumentError → String
  | unexpected a => s!"unexpected argument '{a}' found"
  | unexpectedValue v o => s!"unexpected value '{v}' for '{o}' found; no more were expected"
  | missingValue o => s!"a value is required for '{o}' but none was supplied"
  | repeated o => s!"the argument '{o}' cannot be used multiple times"

def ValueOption.display : ValueOption → String
  | included => "--include <GLOB>"
  | excluded => "--exclude <GLOB>"
  | settingsFile => "--config <FILE>"
  | tag => "--tag <NAME>"

def FlagOption.display : FlagOption → String
  | json => "--json"
  | watch => "--watch"
  | init => "--init"
  | verbose => "--verbose"
  | help => "--help"
  | version => "--version"

namespace AnyOption

/-- The options with their long names and the letters of those that have one. -/
def table : List (String × Option Char × AnyOption) :=
  [ ("include", some 'i', .value .included),
    ("exclude", some 'e', .value .excluded),
    ("config", some 'c', .value .settingsFile),
    ("tag", some 't', .value .tag),
    ("json", none, .flag .json),
    ("watch", some 'w', .flag .watch),
    ("init", none, .flag .init),
    ("verbose", some 'v', .flag .verbose),
    ("help", some 'h', .flag .help),
    ("version", some 'V', .flag .version) ]

def ofName? (name : String) : Option AnyOption := (table.lookup name).map Prod.snd

def ofLetter? (letter : Char) : Option AnyOption :=
  (table.find? fun e => e.2.1 = some letter).map fun e => e.2.2

end AnyOption

/-- What the arguments so far say, and what waits to be judged. -/
structure ArgumentState where
  arguments : Arguments
  pending : Option (ValueOption × Option String)
  path : Option Path
  onlyPaths : Bool
deriving Inhabited

namespace ArgumentState

def start : ArgumentState := ⟨⟨none, none, none, none, [], false, false, false, 0⟩, none, none, false⟩

def fail {α : Type} (e : ArgumentError) : Except Stop α := .error (.error e)

def setOnce (o : ValueOption) (old : Option String) (put : Arguments) :
    Except Stop Arguments :=
  if old.isSome then fail (.repeated o.display) else .ok put

/-- Gives an option its value. Only tags can be given more than once, and a file has a name. -/
def setValue (a : Arguments) (o : ValueOption) (v : String) : Except Stop Arguments :=
  match o with
  | .included => setOnce o a.included { a with included := some v }
  | .excluded => setOnce o a.excluded { a with excluded := some v }
  | .settingsFile =>
    if a.settingsFile.isSome then fail (.repeated o.display)
    else if v.isEmpty then fail (.missingValue o.display)
    else .ok { a with settingsFile := some v }
  | .tag => .ok { a with tags := a.tags ++ [v] }

def setFlag (a : Arguments) (o : FlagOption) : Except Stop Arguments :=
  let once (old : Bool) (put : Arguments) : Except Stop Arguments :=
    if old then fail (.repeated o.display) else .ok put
  match o with
  | .json => once a.json { a with json := true }
  | .watch => once a.watch { a with watch := true }
  | .init => once a.init { a with init := true }
  | .verbose => .ok { a with verbosity := a.verbosity + 1 }
  | .help => .error .help
  | .version => .error .version

variable (s : ArgumentState)

/-- Judges what waits. -/
def settle : Except Stop ArgumentState := do
  let s ← match s.path with
    | none => pure s
    | some p =>
      if p.isEmpty then fail (.missingValue "[PATH]")
      else pure { s with arguments := { s.arguments with path := some p }, path := none }
  match s.pending with
  | none => return s
  | some (o, none) => fail (.missingValue o.display)
  | some (o, some v) => return { s with arguments := ← setValue s.arguments o v, pending := none }

def flag (o : FlagOption) : Except Stop ArgumentState := do
  let s ← s.settle
  return { s with arguments := ← setFlag s.arguments o }

/-- An option whose value is in the same argument, or comes next. -/
def option (o : ValueOption) (value : Option String) : Except Stop ArgumentState := do
  let s ← s.settle
  match value with
  | some v => return { s with arguments := ← setValue s.arguments o v }
  | none => return { s with pending := some (o, none) }

/-- The first argument that is no option is the path; there is no second. -/
def positional (argument : String) : Except Stop ArgumentState := do
  if s.arguments.path.isSome || s.path.isSome then fail (.unexpected argument)
  let s ← s.settle
  return { s with path := some argument }

/-- An argument after two dashes, split at the first equals sign. -/
def long (t : Text) : Except Stop ArgumentState :=
  let name := String.ofList (t.takeWhile (· ≠ '='))
  let value :=
    match t.dropWhile (· ≠ '=') with
    | [] => none
    | _ :: v => some (String.ofList v)
  match AnyOption.ofName? name, value with
  | none, _ => fail (.unexpected s!"--{name}")
  | some (.value o), v => s.option o v
  | some (.flag o), none => s.flag o
  | some (.flag o), some v => fail (.unexpectedValue v o.display)

/-- Letters after one dash; those after an option with a value are its value. -/
def short (s : ArgumentState) : Text → Except Stop ArgumentState
  | [] => .ok s
  | c :: t =>
    match AnyOption.ofLetter? c with
    | none => fail (.unexpected s!"-{c}")
    | some (.flag o) => do short (← s.flag o) t
    | some (.value o) =>
      match t with
      | [] => s.option o none
      | '=' :: v => s.option o (some (String.ofList v))
      | v => s.option o (some (String.ofList v))

def step (argument : String) : Except Stop ArgumentState :=
  if s.onlyPaths then s.positional argument
  else
    match argument.toList with
    | ['-', '-'] => .ok { s with onlyPaths := true }
    | '-' :: '-' :: t => s.long t
    | '-' :: c :: t => s.short (c :: t)
    | _ =>
      match s.pending with
      | some (o, none) => .ok { s with pending := some (o, some argument) }
      | _ => s.positional argument

end ArgumentState

namespace Arguments

def read (arguments : List String) : Except Stop Arguments := do
  let s ← arguments.foldlM ArgumentState.step .start
  return (← s.settle).arguments

/-- Without a path the working folder is meant. -/
def folder (a : Arguments) : Path := a.path.getD "."

end Arguments

end CommentTags
