import CommentTags.Files.Access
import CommentTags.Glob

/-!
Lists of files to ignore: a glob on each line, the last that matches decides.
-/
namespace CommentTags

/-- What a list says about a file. -/
inductive Verdict where
  | ignored
  | kept
deriving DecidableEq, Repr

structure IgnoreRule where
  glob : Glob
  verdict : Verdict
  onlyFolders : Bool
deriving DecidableEq, Repr

/-- A line that is no rule, with its number. -/
structure IgnoreFlaw where
  line : Nat
  error : GlobError
deriving DecidableEq, Repr

namespace IgnoreRule

def startsWith (start : String) (t : Text) : Option Text := start.toList.isPrefixOf? t

def endsWith (stop : String) (t : Text) : Bool := stop.toList.isSuffixOf t

/-- Globs in such lists match within folders, and a lone bracket is a bracket. -/
def globOptions : Glob.Options := ⟨true, true⟩

/-- The glob that stands for a line without its marks. One without a slash matches in every
folder, and one that ends in two stars does not match the folder itself. -/
def globText (isAnchored : Bool) (t : Text) : Text :=
  let t :=
    if isAnchored || t.contains '/' || t = ['*', '*'] then t
    else "**/".toList ++ t
  if endsWith "/**" t then t ++ "/*".toList else t

/-- The rule on a line, if there is one. -/
def read? (line : Text) : Except GlobError (Option IgnoreRule) :=
  let line := if endsWith "\\ " line then line else Text.trimRight line
  if line.isEmpty || line.head? == some '#' then .ok none
  else
    let isEscaped := (startsWith "\\!" line).isSome || (startsWith "\\#" line).isSome
    let (verdict, t) : Verdict × Text :=
      if isEscaped then (.ignored, line.drop 1)
      else if line.head? == some '!' then (.kept, line.drop 1)
      else (.ignored, line)
    let isAnchored := !isEscaped && t.head? == some '/'
    let t := if isAnchored then t.drop 1 else t
    let onlyFolders := endsWith "/" t
    let t := if onlyFolders then t.dropLast else t
    let t := if onlyFolders && endsWith "\\" t then t.dropLast else t
    match Glob.readWith globOptions (String.ofList (globText isAnchored t)) with
    | .ok glob => .ok (some ⟨glob, verdict, onlyFolders⟩)
    | .error e => .error ⟨String.ofList line, e.flaw⟩

def matchesPath (r : IgnoreRule) (path : Path) (isFolder : Bool) : Bool :=
  (!r.onlyFolders || isFolder) && r.glob.excludes path

end IgnoreRule

/-- The rules of one list; paths are taken from a folder of so many names. -/
structure IgnoreList where
  depth : Nat
  rules : List IgnoreRule
deriving DecidableEq, Repr

namespace IgnoreList

def empty : IgnoreList := ⟨0, []⟩

/-- What the last rule that matches says. -/
def verdict? (l : IgnoreList) (names : List Text) (isFolder : Bool) : Option Verdict :=
  let path := Path.ofPieces (names.drop l.depth)
  (l.rules.reverse.find? fun r => r.matchesPath path isFolder).map IgnoreRule.verdict

/-- The pieces of a file that line feeds end. -/
def splitLines : List UInt8 → List (List UInt8)
  | [] => []
  | b :: bs =>
    if b = 10 then [] :: splitLines bs
    else
      match splitLines bs with
      | [] => [[b]]
      | l :: ls => (b :: l) :: ls

def dropReturn (t : Text) : Text :=
  if t.getLast? = some '\r' then t.dropLast else t

/-- The lines of a file up to the first that is no text; a mark of the byte order at the
beginning does not count. -/
def linesOf (content : ByteArray) : List Text :=
  let read := (splitLines content.toList).map fun bytes => String.fromUTF8? ⟨bytes.toArray⟩
  match (read.takeWhile Option.isSome).filterMap fun s => s.map String.toList with
  | [] => []
  | first :: rest => (first.dropWhile (· = '\ufeff') :: rest).map dropReturn

def readLines (number : Nat) : List Text → List IgnoreRule × List IgnoreFlaw
  | [] => ([], [])
  | line :: lines =>
    let (rules, flaws) := readLines (number + 1) lines
    match IgnoreRule.read? line with
    | .ok rule => (rule.toList ++ rules, flaws)
    | .error e => (rules, ⟨number, e⟩ :: flaws)

/-- The list in a file, with the lines that are no rules; one that cannot be read is empty. -/
def ofFile (t : FileTree) (depth : Nat) (p : Path) : IgnoreList × List IgnoreFlaw :=
  match t.entry p with
  | .ok (.file content) =>
    let (rules, flaws) := readLines 1 (linesOf content)
    (⟨depth, rules⟩, flaws)
  | _ => (⟨depth, []⟩, [])

end IgnoreList

end CommentTags
