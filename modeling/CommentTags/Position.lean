/-!
Line and column coordinates, and the ranges between two of them.
-/
namespace CommentTags

/-- A place in a text; lines and columns count from zero, columns in characters. -/
structure Position where
  line : Nat
  column : Nat
deriving DecidableEq, Repr, Inhabited

namespace Position

/-- Positions are ordered by line, then by column. -/
instance : LE Position where
  le a b := a.line < b.line ∨ a.line = b.line ∧ a.column ≤ b.column

instance : LT Position where
  lt a b := a.line < b.line ∨ a.line = b.line ∧ a.column < b.column

instance (a b : Position) : Decidable (a ≤ b) :=
  inferInstanceAs (Decidable (a.line < b.line ∨ a.line = b.line ∧ a.column ≤ b.column))

instance (a b : Position) : Decidable (a < b) :=
  inferInstanceAs (Decidable (a.line < b.line ∨ a.line = b.line ∧ a.column < b.column))

instance : Ord Position where
  compare a b := (compare a.line b.line).then (compare a.column b.column)

variable {a b c : Position}

theorem le_def : a ≤ b ↔ a.line < b.line ∨ a.line = b.line ∧ a.column ≤ b.column := Iff.rfl

theorem lt_def : a < b ↔ a.line < b.line ∨ a.line = b.line ∧ a.column < b.column := Iff.rfl

theorem le_refl (a : Position) : a ≤ a := Or.inr ⟨rfl, Nat.le_refl _⟩

theorem le_trans (h : a ≤ b) (k : b ≤ c) : a ≤ c := by
  rw [le_def] at *
  omega

theorem le_total (a b : Position) : a ≤ b ∨ b ≤ a := by
  simp only [le_def]
  omega

theorem le_antisymm (h : a ≤ b) (k : b ≤ a) : a = b := by
  cases a
  cases b
  simp only [le_def, mk.injEq] at *
  omega

theorem not_le : ¬a ≤ b ↔ b < a := by
  simp only [le_def, lt_def]
  omega

theorem le_of_lt (h : a < b) : a ≤ b := by
  rw [lt_def] at h
  rw [le_def]
  omega

theorem lt_of_le_of_lt (h : a ≤ b) (k : b < c) : a < c := by
  rw [le_def] at h
  rw [lt_def] at *
  omega

theorem lt_of_lt_of_le (h : a < b) (k : b ≤ c) : a < c := by
  rw [le_def] at k
  rw [lt_def] at *
  omega

/-- Readers see lines and columns counted from one. -/
def display (p : Position) : String :=
  s!"{p.line + 1}:{p.column + 1}"

end Position

/-- The stretch from `start` up to `stop`, which is never the earlier of the two. -/
structure Range where
  start : Position
  stop : Position
  start_le_stop : start ≤ stop
deriving DecidableEq, Repr

namespace Range

instance : Inhabited Range := ⟨⟨⟨0, 0⟩, ⟨0, 0⟩, Position.le_refl _⟩⟩

/-- The range between two positions, given in either order. -/
def between (a b : Position) : Range :=
  if h : a ≤ b then ⟨a, b, h⟩
  else ⟨b, a, (Position.le_total a b).resolve_left h⟩

def onLine (line startColumn stopColumn : Nat) : Range :=
  between ⟨line, startColumn⟩ ⟨line, stopColumn⟩

def isEmpty (r : Range) : Bool :=
  r.start == r.stop

/-- A cursor touches a range from its start to its very end. -/
def touches (r : Range) (p : Position) : Bool :=
  r.start ≤ p && p ≤ r.stop

def display (r : Range) : String :=
  s!"{r.start.display}-{r.stop.display}"

end Range

end CommentTags
