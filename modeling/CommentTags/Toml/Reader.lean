import CommentTags.Toml.Number
import CommentTags.Toml.Value

/-!
Reading a document, item by item.
-/
namespace CommentTags.Toml

def isSpace (c : Char) : Bool := c = ' ' || c = '\t'

def skipSpaces (t : Text) : Text := t.dropWhile isSpace

/-- What follows the end of the line, if blanks and a comment are all that is left of it. -/
def endLine? (inComment : Bool) : Text → Option Text
  | [] => some []
  | '\n' :: t => some t
  | '\r' :: '\n' :: t => some t
  | c :: t =>
    if isSpace c || inComment && isPlain c then endLine? inComment t
    else if c = '#' then endLine? true t
    else none

/-- Skips blanks, comments and line ends. -/
def skipLines (inComment : Bool) : Text → Text
  | [] => []
  | '\n' :: t => skipLines false t
  | '\r' :: '\n' :: t => skipLines false t
  | c :: t =>
    if isSpace c || inComment && isPlain c then skipLines inComment t
    else if c = '#' then skipLines true t
    else c :: t

/-! Keys. -/

def isBare (c : Char) : Bool := c.isAlphanum || c = '_' || c = '-'

def key? (t : Text) : Option (Text × Text) :=
  match t with
  | '"' :: t => Style.basic.body? .content t
  | '\'' :: t => Style.literal.body? .content t
  | t =>
    let key := t.takeWhile isBare
    if key.isEmpty then none else some (key, t.dropWhile isBare)

/-- Keys with dots between them, as many as `limit` at most. -/
def path? : Nat → Text → Option (List Text × Text)
  | 0, _ => none
  | limit + 1, t => do
    let (key, t) ← key? (skipSpaces t)
    match skipSpaces t with
    | '.' :: t => do
      let (keys, t) ← path? limit t
      return (key :: keys, t)
    | t => return ([key], t)

/-- Keys and nested values go no deeper than this. -/
def maxDepth : Nat := 79

/-! Values. -/

def isTokenChar (c : Char) : Bool :=
  c.isAlphanum || c = '_' || c = '-' || c = '+' || c = '.' || c = ':'

/-- A value without quotes or brackets. -/
def ofToken? (t : Text) : Option Value :=
  if t = "true".toList then some (.boolean true)
  else if t = "false".toList then some (.boolean false)
  else
    match integer? t with
    | some i => some (.integer i)
    | none =>
      if isDateTime t then some (.dateTime t)
      else if isFloat t then some (.float t)
      else none

/-- A blank may stand between a date and a time. -/
def token? (t : Text) : Option (Value × Text) :=
  let first := t.takeWhile isTokenChar
  let rest := t.dropWhile isTokenChar
  match isDate first, rest with
  | true, ' ' :: c :: more =>
    if c.isDigit then
      let time := (c :: more).takeWhile isTokenChar
      if isZonedTime time then
        some (.dateTime (first ++ ' ' :: time), (c :: more).dropWhile isTokenChar)
      else none
    else some (.dateTime first, rest)
  | _, _ => (ofToken? first).map (·, rest)

variable (read : Text → Option (Value × Text))

/-- The elements of a list up to its closing bracket, each of them by `read`. -/
def elements? : Nat → Text → Option (List Value × Text)
  | 0, _ => none
  | n + 1, t =>
    match skipLines false t with
    | ']' :: t => some ([], t)
    | t => do
      let (v, t) ← read t
      match skipLines false t with
      | ']' :: t => return ([v], t)
      | ',' :: t => do
        let (vs, t) ← elements? n t
        return (v :: vs, t)
      | _ => none

/-- A key with its value. -/
def pair? (t : Text) : Option ((List Text × Value) × Text) := do
  let (path, t) ← path? maxDepth t
  let (v, t) ← read (skipSpaces (← expect? '=' t))
  return ((path, v), t)

/-- Pairs between commas up to the closing brace. -/
def pairs? : Nat → Text → Option (List (List Text × Value) × Text)
  | 0, _ => none
  | n + 1, t => do
    let (p, t) ← pair? read t
    match skipSpaces t with
    | '\x7d' :: t => return ([p], t)
    | ',' :: t => do
      let (ps, t) ← pairs? n t
      return (p :: ps, t)
    | _ => none

/-- A value with so many levels of brackets and braces in it. -/
def value? : Nat → Text → Option (Value × Text)
  | _, '"' :: t => (string? ('"' :: t)).map fun r => (.string r.1, r.2)
  | _, '\'' :: t => (string? ('\'' :: t)).map fun r => (.string r.1, r.2)
  | 0, '[' :: _ => none
  | 0, '\x7b' :: _ => none
  | depth + 1, '[' :: t => do
    let (vs, t) ← elements? (value? depth) (t.length + 1) t
    return (.array false vs, t)
  | depth + 1, '\x7b' :: t =>
    match skipSpaces t with
    | '\x7d' :: t => some (.table .closed [], t)
    | t => do
      let (ps, t) ← pairs? (value? depth) (t.length + 1) t
      return (.table .closed (← Fields.ofPairs? ps), t)
  | _, t => token? t

/-! Documents. -/

/-- A header, after its first bracket. -/
def header? (t : Text) : Option (Item × Text) :=
  match t with
  | '[' :: t => do
    let (path, t) ← path? maxDepth t
    return (.header path true, ← endLine? false (← expect? ']' (← expect? ']' t)))
  | t => do
    let (path, t) ← path? maxDepth t
    return (.header path false, ← endLine? false (← expect? ']' t))

def items? : Nat → Text → Option (List Item)
  | 0, _ => none
  | n + 1, t =>
    match skipSpaces t with
    | [] => some []
    | '[' :: t => do
      let (item, t) ← header? t
      return item :: (← items? n t)
    | c :: t =>
      if c = '#' ∨ c = '\n' ∨ c = '\r' then do items? n (← endLine? false (c :: t))
      else do
        let ((path, v), t) ← pair? (value? maxDepth) (c :: t)
        return .pair path v :: (← items? n (← endLine? false t))

/-- A mark of the byte order at the beginning does not count. -/
def dropMark : Text → Text
  | '\ufeff' :: t => t
  | t => t

/-- The items of a document in their order. -/
def readItems? (t : Text) : Option (List Item) :=
  let t := dropMark t
  items? (t.length + 1) t

/-- The table that a document describes. -/
def read? (t : Text) : Option Fields :=
  (readItems? t).bind Fields.ofItems?

end CommentTags.Toml
