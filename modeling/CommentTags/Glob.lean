import CommentTags.Glob.Parts

/-!
Globs: reading them, and telling which paths they match.
-/
namespace CommentTags

/-- Why a text is no glob. -/
inductive GlobFlaw where
  | unclosedClass
  | invalidRange (first last : Char)
  | unopenedBranches
  | unclosedBranches
  | danglingEscape
deriving DecidableEq, Repr

def GlobFlaw.message : GlobFlaw → String
  | unclosedClass => "unclosed character class; missing ']'"
  | invalidRange a b => s!"invalid range; '{a}' > '{b}'"
  | unopenedBranches =>
    "unopened alternate group; missing '\x7b' (maybe escape '\x7d' with '[\x7d]'?)"
  | unclosedBranches =>
    "unclosed alternate group; missing '\x7d' (maybe escape '\x7b' with '[\x7b]'?)"
  | danglingEscape => "dangling '\\'"

structure GlobError where
  glob : String
  flaw : GlobFlaw
deriving DecidableEq, Repr

def GlobError.message (e : GlobError) : String :=
  s!"error parsing glob '{e.glob}': {e.flaw.message}"

structure Glob where
  parts : List Glob.Part
  pattern : Pattern
deriving DecidableEq, Repr, Inhabited

namespace Glob

/-- An open group of branches: the finished ones, and the parts before it, the last part first. -/
structure Frame where
  before : List Part
  done : List (List Part)

/-- The members of a class, the last range first, up to its closing bracket. -/
def classRanges (isFirst inRange : Bool) (ranges : List (Char × Char)) :
    Text → Except GlobFlaw (List (Char × Char) × Text)
  | [] => .error .unclosedClass
  | c :: t =>
    if c = ']' && !isFirst then
      .ok (if inRange then ('-', '-') :: ranges else ranges, t)
    else if c = '-' && !isFirst && !inRange then classRanges false true ranges t
    else
      match inRange, ranges with
      | true, (a, _) :: ranges =>
        if a ≤ c then classRanges false false ((a, c) :: ranges) t
        else .error (.invalidRange a c)
      | _, ranges => classRanges false false ((c, c) :: ranges) t

/-- After the bracket that opens a class. -/
def classPart (t : Text) : Except GlobFlaw (Part × Text) := do
  let (negated, t) :=
    match t with
    | '!' :: rest => (true, rest)
    | '^' :: rest => (true, rest)
    | _ => (false, t)
  let (ranges, t) ← classRanges true false [] t
  return (.chosen negated ranges.reverse, t)

/-- After two stars: the parts so far with what the stars add, and the text left. Between slashes
two stars stand for any number of folders; elsewhere they are two stars. -/
def doubleStar (inGroup : Bool) (before : Option Char) (parts : List Part) (t : Text) :
    List Part × Text :=
  let plain := (.many :: .many :: parts, t)
  match parts with
  | [] =>
    match t with
    | [] => ([.folders], [])
    | '/' :: rest => ([.folders], rest)
    | _ => plain
  | last :: earlier =>
    if before ≠ some '/' && !(inGroup && (before = some ',' || before = some '\x7b')) then plain
    else
      let put (p : Part) : List Part :=
        match last with
        | .folders => parts
        | .below => parts
        | _ => p :: earlier
      match t with
      | [] => (put .below, [])
      | '/' :: rest => (put .between, rest)
      | c :: _ => if inGroup && (c = ',' || c = '\x7d') then (put .below, t) else plain

/-- The last character of a text before the rest that is left of it. -/
def lastBefore (t rest : Text) : Option Char :=
  (t.take (t.length - rest.length)).getLast?

/-- Reads parts, the last part first, inside the open groups. -/
def readParts (o : Options) (fuel : Nat) (loose : Bool) (before : Option Char)
    (frames : List Frame) (parts : List Part) (t : Text) : Except GlobFlaw (List Part) :=
  match fuel, t with
  | 0, _ => .ok parts
  | _, [] => if frames.isEmpty then .ok parts else .error .unclosedBranches
  | fuel + 1, c :: t =>
    let push (p : Part) := readParts o fuel loose (some c) frames (p :: parts) t
    match c with
    | '?' => push .anyOne
    | '*' =>
      match t with
      | '*' :: rest =>
        let (parts, left) := doubleStar (!frames.isEmpty) before parts rest
        readParts o fuel loose ((lastBefore rest left).or (some '*')) frames parts left
      | _ => push .many
    | '[' =>
      if loose then push (.literal '[')
      else
        match classPart t with
        | .ok (p, rest) => readParts o fuel loose (some ']') frames (p :: parts) rest
        | .error .unclosedClass =>
          if o.looseClasses then readParts o fuel true (some c) frames (.literal '[' :: parts) t
          else .error .unclosedClass
        | .error e => .error e
    | '\x7b' => readParts o fuel loose (some c) (⟨parts, []⟩ :: frames) [] t
    | '\x7d' =>
      match frames with
      | [] => .error .unopenedBranches
      | f :: frames =>
        let all := (parts :: f.done).reverse.map List.reverse
        let p := Part.branches (all.filterMap (Part.sequence? o))
        readParts o fuel loose (some c) frames (p :: f.before) t
    | ',' =>
      match frames with
      | [] => push (.literal ',')
      | f :: frames =>
        readParts o fuel loose (some c) ({ f with done := parts :: f.done } :: frames) [] t
    | '\\' =>
      match t with
      | [] => .error .danglingEscape
      | e :: rest => readParts o fuel loose (some e) frames (.literal e :: parts) rest
    | c => push (.literal c)

/-- Reads a glob; a glob of nothing but any number of folders matches everything. -/
def readWith (o : Options) (glob : String) : Except GlobError Glob :=
  let t := glob.toList
  match readParts o (t.length + 1) false none [] [] t with
  | .error flaw => .error ⟨glob, flaw⟩
  | .ok reversed =>
    let parts := reversed.reverse
    let pattern :=
      if parts = [.folders] then anything else (Part.sequence? o parts).getD .empty
    .ok ⟨parts, pattern⟩

def read (glob : String) : Except GlobError Glob :=
  readWith ⟨false, false⟩ glob

/-- The glob matches the path from its first byte to its last. -/
def isMatch (g : Glob) (path : String) : Bool :=
  (g.pattern.ends (.atStart (byteText path.toList))).any fun c => c.rest.isEmpty

/-- The glob is decided by the file name of a path that ends as the glob does: the parts after
the folders are all literal, or a literal extension ends it. -/
def looksAtName (g : Glob) : Bool :=
  let literal (p : Part) : Bool := match p with | .literal _ => true | _ => false
  let nameOnly :=
    match g.parts with
    | .folders :: p :: ps => (p :: ps).all fun q => literal q && q != .literal '/'
    | _ => false
  let fixedEnd (ps : List Part) : Bool :=
    match ps with
    | .many :: rest => rest.all literal
    | _ => ps.all literal
  let suffixOnly :=
    match g.parts with
    | [.folders, .many, .literal '.'] => false
    | [.many, .literal '.'] => false
    | .folders :: ps => fixedEnd ps
    | ps => fixedEnd ps
  nameOnly || (!suffixOnly && g.parts.getLast? == some (.literal '.'))

/-- As one of several globs to leave paths out by. A path that ends in a full stop has no file
name, so a glob that looks at the name does not match it. -/
def excludes (g : Glob) (path : String) : Bool :=
  g.isMatch path && !(path.toList.getLast? == some '.' && g.looksAtName)

end Glob

/-- The paths that one glob lets in and no other leaves out. -/
structure FileFilter where
  included : Glob
  excluded : List Glob
deriving DecidableEq, Repr

namespace FileFilter

/-- The including glob is read first, then the others in their order. -/
def read (included : String) (excluded : List String) : Except GlobError FileFilter := do
  return ⟨← Glob.read included, ← excluded.mapM Glob.read⟩

def passes (f : FileFilter) (path : String) : Bool :=
  f.included.isMatch path && !f.excluded.any fun g => g.excludes path

end FileFilter

end CommentTags
