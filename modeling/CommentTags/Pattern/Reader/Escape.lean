import CommentTags.Pattern.Reader.State

/-!
Single characters and the escapes that a backslash begins.
-/
namespace CommentTags.Pattern.Reader

inductive PerlKind where
  | digit
  | space
  | word
deriving DecidableEq, Repr

/-- The smallest parts of a pattern. -/
inductive Primitive where
  /-- `byte` marks a character given by exactly two hexadecimal digits. -/
  | literal (c : Char) (byte : Bool)
  | dot
  | perl (kind : PerlKind) (negated : Bool)
  | property (set : Unicode.CharSet) (negated : Bool)
  | look (l : Look)
deriving DecidableEq, Repr

def isMeta (c : Char) : Bool :=
  ['\\', '.', '+', '*', '?', '(', ')', '|', '[', ']', '\x7b', '\x7d', '^', '$', '#', '&',
    '-', '~'].contains c

/-- Characters that may stand after a backslash for themselves. -/
def isEscapable (c : Char) : Bool :=
  isMeta c || (c.toNat < 0x80 && !c.isAlphanum && c != '<' && c != '>')

def isHex (c : Char) : Bool :=
  c.isDigit || ('a' ≤ c && c ≤ 'f') || ('A' ≤ c && c ≤ 'F')

def hexValue (c : Char) : Nat :=
  if c.isDigit then c.toNat - '0'.toNat else c.toUpper.toNat - 'A'.toNat + 10

/-- The character of a code point given in hexadecimal. -/
def hexChar? (digits : List Char) : Option Char :=
  let n := digitsValue 16 hexValue digits
  if n.isValidChar then some (Char.ofNat n) else none

def hexFixed (count : Nat) (digits : List Char) (s : State) : Option (Char × State) :=
  match count with
  | 0 => (hexChar? digits.reverse).map (·, s)
  | n + 1 =>
    match s.peek with
    | some c => if isHex c then hexFixed n (c :: digits) s.bumpSkip else none
    | none => none

def hexBraced (fuel : Nat) (digits : List Char) (s : State) : Option (Char × State) :=
  match fuel, s.peek with
  | fuel + 1, some c =>
    if c = '\x7d' then
      if digits.isEmpty then none else (hexChar? digits.reverse).map (·, s.bumpSkip)
    else if isHex c then hexBraced fuel (c :: digits) s.bumpSkip
    else none
  | _, _ => none

/-- After the letter of a hexadecimal escape of so many digits. -/
def hexEscape (count : Nat) (s : State) : Option (Primitive × State) :=
  let s := s.skip
  match s.peek with
  | none => none
  | some '\x7b' =>
    (hexBraced s.rest.length [] s.bumpSkip).map fun (c, s) => (.literal c false, s)
  | some _ => (hexFixed count [] s).map fun (c, s) => (.literal c (count == 2), s)

def braced (fuel : Nat) (name : List Char) (s : State) : Option (List Char × State) :=
  match fuel, s.peek with
  | fuel + 1, some c =>
    if c = '\x7d' then some (name.reverse, s.bump) else braced fuel (c :: name) s.bumpSkip
  | _, _ => none

/-- Splits at the first place where a text occurs. -/
def splitAt? (mark : String) (name : List Char) : Option (List Char × List Char) :=
  Text.cut? name mark.toList

def propertyNamed? (name : List Char) (negated : Bool) : Option Primitive :=
  match splitAt? "!=" name with
  | some (p, v) => (Unicode.Property.valued? p v).map fun s => .property s !negated
  | none =>
    match (splitAt? ":" name).or (splitAt? "=" name) with
    | some (p, v) => (Unicode.Property.valued? p v).map fun s => .property s negated
    | none => (Unicode.Property.named? name).map fun s => .property s negated

/-- After the letter of a property escape. -/
def propertyEscape (negated : Bool) (s : State) : Option (Primitive × State) :=
  let s := s.skip
  match s.peek with
  | none => none
  | some '\\' => none
  | some '\x7b' => do
    let (name, s) ← braced s.rest.length [] s.bumpSkip
    return (← propertyNamed? name negated, s)
  | some c => do
    let set ← Unicode.Property.named? [c]
    return (.property set negated, s.bumpSkip)

def isEdgeLetter (c : Char) : Bool := c.isAlpha || c == '-'

def edgeLetters (fuel : Nat) (name : List Char) (s : State) : List Char × State :=
  match fuel, s.peek with
  | fuel + 1, some c =>
    if isEdgeLetter c then edgeLetters fuel (c :: name) s.bumpSkip else (name.reverse, s)
  | _, _ => (name.reverse, s)

def edgeNamed? : String → Option Edge
  | "start" => some .start
  | "end" => some .stop
  | "start-half" => some .startHalf
  | "end-half" => some .stopHalf
  | _ => none

/-- After the letter of a word boundary, which a name in braces may qualify. -/
def boundaryEscape (s : State) : Option (Primitive × State) :=
  let word (e : Edge) (s : State) : Option (Primitive × State) :=
    some (.look (.word e s.flags.ascii), s)
  if s.peek = some '\x7b' then
    let inside := s.bumpSkip
    match inside.peek with
    | none => none
    | some c =>
      if isEdgeLetter c then
        let (name, s) := edgeLetters inside.rest.length [] inside
        if s.peek = some '\x7d' then do word (← edgeNamed? (String.ofList name)) s.bump else none
      else word .either s
  else word .either s

/-- After a backslash. -/
def escape (s : State) : Option (Primitive × State) :=
  match s.peek with
  | none => none
  | some c =>
    let s := s.bump
    let literal (c : Char) : Option (Primitive × State) := some (.literal c false, s)
    let look (l : Look) : Option (Primitive × State) := some (.look l, s)
    match c with
    | 'x' => hexEscape 2 s
    | 'u' => hexEscape 4 s
    | 'U' => hexEscape 8 s
    | 'p' => propertyEscape false s
    | 'P' => propertyEscape true s
    | 'd' => some (.perl .digit false, s)
    | 'D' => some (.perl .digit true, s)
    | 's' => some (.perl .space false, s)
    | 'S' => some (.perl .space true, s)
    | 'w' => some (.perl .word false, s)
    | 'W' => some (.perl .word true, s)
    | 'a' => literal '\x07'
    | 'f' => literal '\x0c'
    | 't' => literal '\t'
    | 'n' => literal '\n'
    | 'r' => literal '\r'
    | 'v' => literal '\x0b'
    | 'A' => look .textStart
    | 'z' => look .textStop
    | 'b' => boundaryEscape s
    | 'B' => look (.word .neither s.flags.ascii)
    | '<' => look (.word .start s.flags.ascii)
    | '>' => look (.word .stop s.flags.ascii)
    | c => if isEscapable c then literal c else none

end CommentTags.Pattern.Reader
