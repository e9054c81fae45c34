import CommentTags.Text.Blank

/-!
Texts as lists of characters: byte offsets, the first occurrence of a needle, and trimming.
-/
namespace CommentTags

/-- The content of documents, lines and comments. -/
abbrev Text := List Char

namespace Text

/-- Length in UTF-8 bytes. -/
def bytes : Text → Nat
  | [] => 0
  | c :: t => c.utf8Size + bytes t

/-- Splits before a byte offset; none inside a character or past the end. -/
def splitAtByte? : Text → Nat → Option (Text × Text)
  | t, 0 => some ([], t)
  | [], _ => none
  | c :: t, n =>
    if n < c.utf8Size then none
    else (splitAtByte? t (n - c.utf8Size)).map fun s => (c :: s.1, s.2)

/-- The number of characters that begin before a byte offset. -/
def columnAt : Text → Nat → Nat
  | [], _ => 0
  | c :: t, n => if n = 0 then 0 else columnAt t (n - c.utf8Size) + 1

/-- What stands before and after the first occurrence of a needle. -/
def cut? (t needle : Text) : Option (Text × Text) :=
  match t with
  | [] => if needle.isEmpty then some ([], []) else none
  | c :: rest =>
    match needle.isPrefixOf? (c :: rest) with
    | some after => some ([], after)
    | none => (cut? rest needle).map fun s => (c :: s.1, s.2)

def trimLeft (t : Text) : Text :=
  t.dropWhile isBlank

def trimRight (t : Text) : Text :=
  (t.reverse.dropWhile isBlank).reverse

/-- The text without the white space at its two ends. -/
def trim (t : Text) : Text :=
  trimRight (trimLeft t)

/-- The pieces between the occurrences of a separator, one more than it occurs. -/
def fields (separator : Char) : Text → List Text
  | [] => [[]]
  | c :: t =>
    if c = separator then [] :: fields separator t
    else match fields separator t with
      | [] => [[c]]
      | f :: fs => (c :: f) :: fs

end Text

end CommentTags
