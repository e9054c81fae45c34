import CommentTags.Text

/-!
JSON text, indented by two blanks at each level.
-/
namespace CommentTags.Report

inductive Json where
  | string (t : Text)
  | number (n : Nat)
  | list (vs : List Json)
  | record (fields : List (String × Json))
deriving Repr, Inhabited

namespace Json

def hexDigit (n : Nat) : Char := (Nat.digitChar n).toLower

def escaped (c : Char) : Text :=
  match c with
  | '"' => ['\\', '"']
  | '\\' => ['\\', '\\']
  | '\x08' => ['\\', 'b']
  | '\t' => ['\\', 't']
  | '\n' => ['\\', 'n']
  | '\x0c' => ['\\', 'f']
  | '\r' => ['\\', 'r']
  | c =>
    if c.toNat < 0x20 then
      ['\\', 'u', '0', '0', hexDigit (c.toNat / 16), hexDigit (c.toNat % 16)]
    else [c]

def quoted (t : Text) : Text := '"' :: t.flatMap escaped ++ ['"']

/-- A line end and the indentation of a level. -/
def lineAt (level : Nat) : Text := '\n' :: List.replicate (2 * level) ' '

/-- Items between brackets, each on a line of its own; without items nothing stands between. -/
def block (opening closing : Char) (level : Nat) (items : List Text) : Text :=
  if items.isEmpty then [opening, closing]
  else
    opening :: [','].intercalate (items.map fun i => lineAt (level + 1) ++ i) ++
      lineAt level ++ [closing]

mutual

/-- The text of a value that begins at a level. -/
def textAt (level : Nat) : Json → Text
  | .string t => quoted t
  | .number n => Nat.toDigits 10 n
  | .list vs => block '[' ']' level (listAt (level + 1) vs)
  | .record fields => block '\x7b' '\x7d' level (fieldsAt (level + 1) fields)

def listAt (level : Nat) : List Json → List Text
  | [] => []
  | v :: vs => textAt level v :: listAt level vs

def fieldsAt (level : Nat) : List (String × Json) → List Text
  | [] => []
  | (name, v) :: fs => (quoted name.toList ++ ": ".toList ++ textAt level v) :: fieldsAt level fs

end

def text (v : Json) : Text := textAt 0 v

end Json

end CommentTags.Report
