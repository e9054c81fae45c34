import CommentTags.Text
import CommentTags.Unicode.BinaryTable
import CommentTags.Unicode.CaseTable

/-!
Case of letters: simple folding for comparison, and full lower and upper case.
-/
namespace CommentTags

/-- The simple case folding of a character; two characters fold alike when they differ only
in case. -/
def fold (c : Char) : Char :=
  Char.ofNat (Unicode.CaseRun.map Unicode.foldRuns c.toNat)

/-- The characters that fold like `c`, its own folding first. -/
def foldClass (c : Char) : List Char :=
  let n := Unicode.CaseRun.map Unicode.foldRuns c.toNat
  (n :: Unicode.CaseRun.preimages Unicode.foldRuns n).map Char.ofNat

namespace Text

def isCaseIgnorable (c : Char) : Bool := Unicode.caseIgnorableRanges.contains c

def isCased (c : Char) : Bool := Unicode.casedRanges.contains c

/-- A cased character comes next, after any case-ignorable ones. -/
def meetsCased (t : Text) : Bool :=
  match t.dropWhile isCaseIgnorable with
  | [] => false
  | c :: _ => isCased c

def lowerChar (c : Char) : Text :=
  if c = 'İ' then ['i', '\u0307']
  else [Char.ofNat (Unicode.CaseRun.map Unicode.lowerRuns c.toNat)]

/-- Lower case of `t`, which follows the reversed text `before`; a sigma at the end of a word
takes its final form. -/
def lowerAfter (before : Text) : Text → Text
  | [] => []
  | c :: t =>
    let image := if c = 'Σ' ∧ meetsCased before ∧ ¬meetsCased t then ['ς'] else lowerChar c
    image ++ lowerAfter (c :: before) t

def lower (t : Text) : Text :=
  lowerAfter [] t

def upperChar (c : Char) : Text :=
  match Unicode.upperExpansions.lookup c.toNat with
  | some image => image.map Char.ofNat
  | none => [Char.ofNat (Unicode.CaseRun.map Unicode.upperRuns c.toNat)]

def upper (t : Text) : Text :=
  t.flatMap upperChar

end Text

def lowerCase (s : String) : String :=
  String.ofList (Text.lower s.toList)

def upperCase (s : String) : String :=
  String.ofList (Text.upper s.toList)

end CommentTags
