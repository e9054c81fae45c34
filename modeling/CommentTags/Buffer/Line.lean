import CommentTags.Text

/-!
Lines and the three ways they end. Breaking a text into lines loses nothing.
-/
namespace CommentTags

/-- How a line ends; only the last line of a text is unterminated. -/
inductive Terminator where
  | unterminated
  | lineFeed
  | carriageReturn
  | both
deriving DecidableEq, Repr, Inhabited

def Terminator.text : Terminator → Text
  | unterminated => []
  | lineFeed => ['\n']
  | carriageReturn => ['\r']
  | both => ['\r', '\n']

structure Line where
  text : Text
  terminator : Terminator
deriving DecidableEq, Repr, Inhabited

namespace Line

/-- The line with its terminator. -/
def whole (l : Line) : Text :=
  l.text ++ l.terminator.text

def cons (c : Char) (l : Line) : Line :=
  { l with text := c :: l.text }

end Line

namespace Text

/-- A carriage return and the line feed after it end one line together. -/
def lines : Text → List Line
  | [] => [⟨[], .unterminated⟩]
  | '\n' :: t => ⟨[], .lineFeed⟩ :: lines t
  | '\r' :: '\n' :: t => ⟨[], .both⟩ :: lines t
  | '\r' :: t => ⟨[], .carriageReturn⟩ :: lines t
  | c :: t =>
    match lines t with
    | [] => []
    | l :: ls => l.cons c :: ls

end Text

end CommentTags
