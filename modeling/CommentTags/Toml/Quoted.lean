import CommentTags.Text

/-!
Strings between quotes: the four styles, how each is read, and which one a text is written in.
-/
namespace CommentTags.Toml

/-- Tabs, printable ASCII characters and all characters beyond ASCII stand for themselves. -/
def isPlain (c : Char) : Bool :=
  c = '\t' || 0x20 ≤ c.toNat && c.toNat ≠ 0x7F

/-- Double quotes allow escapes and single quotes do not; three of them may span lines. -/
structure Style where
  hasEscapes : Bool
  spansLines : Bool
deriving DecidableEq, Repr

namespace Style

def basic : Style := ⟨true, false⟩

def literal : Style := ⟨false, false⟩

def multiBasic : Style := ⟨true, true⟩

def multiLiteral : Style := ⟨false, true⟩

def quote (s : Style) : Char := if s.hasEscapes then '"' else '\''

def delimiter (s : Style) : Text := List.replicate (if s.spansLines then 3 else 1) s.quote

end Style

/-- What the part of a string that was read asks of the next character. -/
inductive Expect where
  | content
  /-- After a carriage return, which only a line feed may follow. -/
  | lineFeed
  /-- After a backslash. -/
  | escape
  /-- So many more digits of a code point whose value so far is given. -/
  | digits (more : Nat) (value : Nat)
  /-- After a backslash and blanks, which the line must end with. -/
  | lineEnd
  /-- After a line that ends in a backslash; the white space that follows is dropped. -/
  | trimmed
  /-- After a carriage return in that white space. -/
  | trimmedFeed
deriving DecidableEq, Repr

def hexValue? (c : Char) : Option Nat :=
  if '0' ≤ c ∧ c ≤ '9' then some (c.toNat - 0x30)
  else if 'a' ≤ c ∧ c ≤ 'f' then some (c.toNat - 0x57)
  else if 'A' ≤ c ∧ c ≤ 'F' then some (c.toNat - 0x37)
  else none

def escapeChar? : Char → Option Char
  | 'b' => some '\x08'
  | 't' => some '\t'
  | 'n' => some '\n'
  | 'f' => some '\x0c'
  | 'r' => some '\r'
  | '"' => some '"'
  | '\\' => some '\\'
  | _ => none

namespace Style

/-- After three quotes: up to two more belong to the text before them. -/
def closing (s : Style) : Text → Text × Text
  | [] => ([], [])
  | [a] => if a = s.quote then ([a], []) else ([], [a])
  | a :: b :: t =>
    if a = s.quote then if b = s.quote then ([a, b], t) else ([a], b :: t)
    else ([], a :: b :: t)

/-- The text up to the closing quotes, and what follows them. -/
def body? (s : Style) : Expect → Text → Option (Text × Text)
  | _, [] => none
  | .lineFeed, c :: t =>
    if c = '\n' then (body? s .content t).map fun r => ('\n' :: r.1, r.2) else none
  | .escape, c :: t =>
    match escapeChar? c with
    | some e => (body? s .content t).map fun r => (e :: r.1, r.2)
    | none =>
      if c = 'u' then body? s (.digits 4 0) t
      else if c = 'U' then body? s (.digits 8 0) t
      else if !s.spansLines then none
      else if c = ' ' ∨ c = '\t' then body? s .lineEnd t
      else if c = '\n' then body? s .trimmed t
      else if c = '\r' then body? s .trimmedFeed t
      else none
  | .digits more value, c :: t => do
    let value := value * 16 + (← hexValue? c)
    if more ≤ 1 then
      if value.isValidChar then (body? s .content t).map fun r => (Char.ofNat value :: r.1, r.2)
      else none
    else body? s (.digits (more - 1) value) t
  | .lineEnd, c :: t =>
    if c = ' ' ∨ c = '\t' then body? s .lineEnd t
    else if c = '\n' then body? s .trimmed t
    else if c = '\r' then body? s .trimmedFeed t
    else none
  | .trimmedFeed, c :: t => if c = '\n' then body? s .trimmed t else none
  | state, c :: t =>
    if state = .trimmed ∧ (c = ' ' ∨ c = '\t' ∨ c = '\n') then body? s .trimmed t
    else if state = .trimmed ∧ c = '\r' then body? s .trimmedFeed t
    else if c = s.quote then
      if !s.spansLines then some ([], t)
      else
        match t with
        | a :: b :: rest =>
          if a = s.quote ∧ b = s.quote then some (s.closing rest)
          else (body? s .content t).map fun r => (c :: r.1, r.2)
        | _ => none
    else if c = '\\' ∧ s.hasEscapes then body? s .escape t
    else if c = '\r' ∧ s.spansLines then body? s .lineFeed t
    else if isPlain c ∨ c = '\n' ∧ s.spansLines then
      (body? s .content t).map fun r => (c :: r.1, r.2)
    else none

end Style

/-- A line end right after the opening quotes does not count. -/
def dropLineEnd : Text → Text
  | '\n' :: t => t
  | '\r' :: '\n' :: t => t
  | t => t

/-- A string in any style, from its opening quote on. -/
def string? : Text → Option (Text × Text)
  | '"' :: '"' :: '"' :: t => Style.multiBasic.body? .content (dropLineEnd t)
  | '"' :: t => Style.basic.body? .content t
  | '\'' :: '\'' :: '\'' :: t => Style.multiLiteral.body? .content (dropLineEnd t)
  | '\'' :: t => Style.literal.body? .content t
  | _ => none

/-! The written form. -/

/-- The character cannot stand for itself even between three quotes. -/
def isControl (c : Char) : Bool := !isPlain c && c ≠ '\n'

/-- The most occurrences of a character in a row; `run` came right before. -/
def longestRun (q : Char) (run : Nat) : Text → Nat
  | [] => run
  | c :: t => if c = q then longestRun q (run + 1) t else max run (longestRun q 0 t)

/-- The text can be written between the quotes of the style as it stands. -/
def Style.suits (s : Style) (t : Text) : Bool :=
  !t.any isControl && !(s.hasEscapes && t.contains '\\') &&
    (s.spansLines || !t.contains '\n') &&
    longestRun s.quote 0 t ≤ if s.spansLines then 2 else 0

/-- The first style that suits the text; escapes make double quotes suit any. -/
def Style.ofText (t : Text) : Style :=
  if basic.suits t then basic
  else if literal.suits t then literal
  else if multiBasic.suits t then multiBasic
  else if multiLiteral.suits t then multiLiteral
  else if t.contains '\n' then multiBasic
  else basic

def hexDigits (width n : Nat) : Text :=
  let digits := (Nat.toDigits 16 n).map Char.toUpper
  List.replicate (width - digits.length) '0' ++ digits

def escaped (c : Char) : Text :=
  match c with
  | '\x08' => ['\\', 'b']
  | '\t' => ['\\', 't']
  | '\n' => ['\\', 'n']
  | '\x0c' => ['\\', 'f']
  | '\r' => ['\\', 'r']
  | '"' => ['\\', '"']
  | '\\' => ['\\', '\\']
  | c => '\\' :: 'u' :: hexDigits 4 c.toNat

namespace Style

/-- The text between the quotes; `run` quotes came right before. Between three quotes, two in a
row need no escape. -/
def inside (s : Style) (run : Nat) : Text → Text
  | [] => []
  | c :: t =>
    if !s.hasEscapes then c :: inside s 0 t
    else if c = '"' then
      if run < (if s.spansLines then 2 else 0) then c :: inside s (run + 1) t
      else escaped c ++ inside s 0 t
    else if c = '\n' ∧ s.spansLines then c :: inside s 0 t
    else if isPlain c ∧ c ≠ '\t' ∧ c ≠ '\\' then c :: inside s 0 t
    else escaped c ++ inside s 0 t

def write (s : Style) (t : Text) : Text :=
  let first : Text := if s.spansLines && t.contains '\n' then ['\n'] else []
  s.delimiter ++ first ++ s.inside 0 t ++ s.delimiter

end Style

/-- A text as a string. -/
def quoted (t : Text) : Text := (Style.ofText t).write t

end CommentTags.Toml
