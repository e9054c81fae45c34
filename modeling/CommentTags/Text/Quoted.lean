import CommentTags.Text.Letters
import CommentTags.Unicode.CategoryTable

/-!
Quoted text in which every character can be seen.
-/
namespace CommentTags.Text

/-- Controls, separators other than the space, formats, private and unassigned characters. -/
def isInvisible (c : Char) : Bool :=
  c != ' ' &&
    [Unicode.controlRanges, Unicode.formatRanges, Unicode.privateUseRanges,
      Unicode.unassignedRanges, Unicode.spaceSeparatorRanges, Unicode.lineSeparatorRanges,
      Unicode.paragraphSeparatorRanges].any fun r => r.contains c

def codePoint (c : Char) : Text :=
  "\\u\x7b".toList ++ Nat.toDigits 16 c.toNat ++ ['\x7d']

def quotedChar (c : Char) : Text :=
  match c with
  | '"' => ['\\', '"']
  | '\\' => ['\\', '\\']
  | '\n' => ['\\', 'n']
  | '\r' => ['\\', 'r']
  | '\t' => ['\\', 't']
  | '\x00' => ['\\', '0']
  | c =>
    if Unicode.graphemeExtendRanges.contains c || isInvisible c then codePoint c else [c]

/-- Between double quotes, with escapes for the characters that would not show. -/
def quoted (t : Text) : Text :=
  '"' :: t.flatMap quotedChar ++ ['"']

end CommentTags.Text
