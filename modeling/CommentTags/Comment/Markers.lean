import CommentTags.Text

/-!
The markers that begin and end comments in one language.
-/
namespace CommentTags

structure BlockMarkers where
  opening : Text
  closing : Text
deriving DecidableEq, Repr

/-- The comment markers of a language; one with neither kind has no comments. -/
structure Markers where
  line : Option Text
  block : Option BlockMarkers
deriving DecidableEq, Repr

inductive MarkerError where
  | emptyMarker (language : String)
  | incompleteBlock (language : String)
deriving DecidableEq, Repr

def MarkerError.message : MarkerError → String
  | emptyMarker l => s!"Empty comment marker for language: {l}"
  | incompleteBlock l =>
    s!"Block comment for language {l} needs both a start and an end marker"

namespace Markers

def none : Markers := ⟨.none, .none⟩

def lineOnly (line : String) : Markers := ⟨some line.toList, .none⟩

def blockOnly (opening closing : String) : Markers :=
  ⟨.none, some ⟨opening.toList, closing.toList⟩⟩

def lineAndBlock (line opening closing : String) : Markers :=
  ⟨some line.toList, some ⟨opening.toList, closing.toList⟩⟩

def isEmpty (m : Markers) : Bool :=
  m.line.isNone && m.block.isNone

def nonEmpty (language : String) (marker : Text) : Except MarkerError Text :=
  if marker.isEmpty then .error (.emptyMarker language) else .ok marker

/-- Markers as a user gives them: none may be empty, and block markers come in pairs. -/
def custom (language : String) (line opening closing : Option Text) :
    Except MarkerError Markers := do
  let line ← line.mapM (nonEmpty language)
  match opening, closing with
  | some o, some c =>
    let o ← nonEmpty language o
    let c ← nonEmpty language c
    return ⟨line, some ⟨o, c⟩⟩
  | .none, .none => return ⟨line, .none⟩
  | _, _ => .error (.incompleteBlock language)

end Markers

end CommentTags
