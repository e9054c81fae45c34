import CommentTags.Text

/-!
What a TOML document holds: its lines as items, and the table that they describe.
-/
namespace CommentTags.Toml

/-- How a table came to be, which decides what may still be put into it. -/
inductive Origin where
  /-- By the header of a table inside it. -/
  | implied
  /-- By a key with dots. -/
  | dotted
  /-- By a header of its own. -/
  | headed
  /-- Between braces. -/
  | closed
deriving DecidableEq, Repr

/-- A value; numbers that are not whole, and dates, are kept as they are written. -/
inductive Value where
  | string (t : Text)
  | integer (i : Int)
  | float (written : Text)
  | boolean (b : Bool)
  | dateTime (written : Text)
  /-- A list; one that headers made grows with each further header. -/
  | array (grows : Bool) (elements : List Value)
  | table (origin : Origin) (fields : List (Text × Value))
deriving Repr, Inhabited

abbrev Fields := List (Text × Value)

/-- One line of meaning. -/
inductive Item where
  | header (path : List Text) (isElement : Bool)
  | pair (path : List Text) (value : Value)
deriving Repr, Inhabited

namespace Fields

/-- The first value under a key. -/
def get? (fs : Fields) (key : Text) : Option Value := fs.lookup key

/-- Puts the value in the place of the one under the key, or last. -/
def put (key : Text) (v : Value) : Fields → Fields
  | [] => [(key, v)]
  | (k, w) :: fs => if k = key then (k, v) :: fs else (k, w) :: put key v fs

/-- Changes the table at the end of a path; tables that are missing on the way are made. Only a
table without a header of its own can be entered by a dotted key. -/
def alter (newOrigin : Origin) (f : Origin → Fields → Option Fields) :
    List Text → Origin → Fields → Option Fields
  | [], origin, fs => f origin fs
  | key :: path, _, fs =>
    match fs.get? key with
    | none => do
      let inner ← alter newOrigin f path newOrigin []
      return fs.put key (.table newOrigin inner)
    | some (.table origin inner) =>
      if origin = .closed ∨ newOrigin = .dotted ∧ origin = .headed then none
      else do
        let inner ← alter newOrigin f path origin inner
        return fs.put key (.table origin inner)
    | some (.array true elements) =>
      match elements.getLast? with
      | some (.table origin inner) => do
        let inner ← alter newOrigin f path origin inner
        return fs.put key (.array true (elements.dropLast ++ [.table origin inner]))
      | _ => none
    | some _ => none

/-- Adds a value under a new key; the tables that a dotted key leads through are dotted. -/
def addPair (path : List Text) (v : Value) (fs : Fields) : Option Fields :=
  match path.getLast? with
  | none => none
  | some key =>
    let way := path.dropLast
    let add (origin : Origin) (fs : Fields) : Option Fields :=
      if (origin == .dotted) == way.isEmpty || (fs.get? key).isSome then none
      else some (fs.put key v)
    alter .dotted add way .headed fs

/-- Opens a table, or a further element of a list of tables. A table opens once, even if
headers of tables inside it came first. -/
def open? (path : List Text) (isElement : Bool) (fs : Fields) : Option Fields :=
  match path.getLast? with
  | none => none
  | some key =>
    let add (_ : Origin) (fs : Fields) : Option Fields :=
      match isElement, fs.get? key with
      | false, none => some (fs.put key (.table .headed []))
      | false, some (.table .implied inner) => some (fs.put key (.table .headed inner))
      | true, none => some (fs.put key (.array true [.table .headed []]))
      | true, some (.array true elements) =>
        some (fs.put key (.array true (elements ++ [.table .headed []])))
      | _, _ => none
    alter .implied add path.dropLast .headed fs

/-- Takes in one item; pairs belong to the last header before them. -/
def addItem (state : List Text × Fields) (item : Item) : Option (List Text × Fields) :=
  match item with
  | .header path isElement => (open? path isElement state.2).map (path, ·)
  | .pair path v =>
    (alter .implied (fun _ fs => fs.addPair path v) state.1 .headed state.2).map (state.1, ·)

/-- The table that the items describe; none if they contradict each other. -/
def ofItems? (items : List Item) : Option Fields :=
  (items.foldlM addItem ([], [])).map Prod.snd

/-- A table between braces. -/
def ofPairs? (pairs : List (List Text × Value)) : Option Fields :=
  pairs.foldlM (fun fs p => fs.addPair p.1 p.2) []

end Fields

end CommentTags.Toml
