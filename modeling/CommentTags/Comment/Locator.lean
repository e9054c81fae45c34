import CommentTags.Comment.Markers

/-!
The comment part of each line. A block comment that its line leaves open goes on until a later
line closes it; what follows a closed block on the same line is not looked at.
-/
namespace CommentTags

/-- The text of a comment, markers excluded, and the byte of the line where it begins. -/
structure Comment where
  text : Text
  offset : Nat
deriving DecidableEq, Repr, Inhabited

/-- The closing marker that an open block comment waits for. -/
structure BlockState where
  pending : Option Text
deriving DecidableEq, Repr, Inhabited

namespace BlockState

def outside : BlockState := ⟨none⟩

def isOpen (s : BlockState) : Bool := s.pending.isSome

end BlockState

namespace Markers

/-- The rest of a block comment whose body begins after `before`. -/
def locateBody (before body closing : Text) : Comment × BlockState :=
  match body.cut? closing with
  | some (inside, _) => (⟨inside, before.bytes⟩, .outside)
  | Option.none => (⟨body, before.bytes⟩, ⟨some closing⟩)

/-- The comment that a line marker or a block opening begins, whichever comes first; a line
marker wins a tie. -/
def locateOpening (m : Markers) (line : Text) : Option Comment × BlockState :=
  let lineCut := m.line.bind fun marker => (line.cut? marker).map fun s => (marker, s)
  let blockCut := m.block.bind fun block => (line.cut? block.opening).map fun s => (block, s)
  let lineComment : Option Comment :=
    lineCut.map fun (marker, before, after) => ⟨after, (before ++ marker).bytes⟩
  match blockCut with
  | some (block, before, after) =>
    if lineCut.all fun (_, lineBefore, _) => before.length < lineBefore.length then
      let (comment, state) := locateBody (before ++ block.opening) after block.closing
      (some comment, state)
    else (lineComment, .outside)
  | Option.none => (lineComment, .outside)

/-- The comment part of one line, and the state in which it leaves the next. -/
def locate (m : Markers) (state : BlockState) (line : Text) : Option Comment × BlockState :=
  match state.pending with
  | some closing =>
    let (comment, state) := locateBody [] line closing
    (some comment, state)
  | Option.none => m.locateOpening line

/-- The comment part of each of the lines, with the state after it. -/
def locateAll (m : Markers) : BlockState → List Text → List (Option Comment × BlockState)
  | _, [] => []
  | state, line :: rest =>
    let found := m.locate state line
    found :: m.locateAll found.2 rest

end Markers

end CommentTags
