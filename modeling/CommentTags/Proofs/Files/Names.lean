import Mathlib.Data.List.Basic
import CommentTags.Files.Access
import CommentTags.Proofs.Except

/-!
Names and the paths that are made of them. Paths of different names differ, and two paths of names
that name the same file are equal.
-/
namespace CommentTags

namespace Text

variable {separator : Char}

theorem fields_of_not_mem {s : Text} (h : separator ∉ s) : fields separator s = [s] := by
  induction s with
  | nil => rfl
  | cons c s ih =>
    obtain ⟨hc, hs⟩ := List.ne_and_not_mem_of_not_mem_cons h
    rw [fields, if_neg (Ne.symm hc), ih hs]

theorem fields_append {s : Text} (h : separator ∉ s) (t : Text) :
    fields separator (s ++ separator :: t) = s :: fields separator t := by
  induction s with
  | nil => rw [List.nil_append, fields, if_pos rfl]
  | cons c s ih =>
    obtain ⟨hc, hs⟩ := List.ne_and_not_mem_of_not_mem_cons h
    rw [List.cons_append, fields, if_neg (Ne.symm hc), ih hs]

/-- Pieces that hold no separator are found again between the separators. -/
theorem fields_intercalate {ps : List Text} (h : ∀ p ∈ ps, separator ∉ p) (hps : ps ≠ []) :
    fields separator ([separator].intercalate ps) = ps := by
  induction ps with
  | nil => exact (hps rfl).elim
  | cons p ps ih =>
    have hp : separator ∉ p := h p List.mem_cons_self
    cases ps with
    | nil => rw [List.intercalate_singleton, fields_of_not_mem hp]
    | cons q ps =>
      have hrest := ih (fun r hr => h r (List.mem_cons_of_mem p hr)) (List.cons_ne_nil q ps)
      rw [List.intercalate_cons_cons, List.append_assoc, List.singleton_append,
        fields_append hp, hrest]

theorem not_mem_of_mem_fields {t p : Text} (h : p ∈ fields separator t) : separator ∉ p := by
  induction t generalizing p with
  | nil => rw [List.mem_singleton.mp h]; exact List.not_mem_nil
  | cons c t ih =>
    rw [fields] at h
    split at h
    · rcases List.mem_cons.mp h with rfl | h
      · exact List.not_mem_nil
      · exact ih h
    · rename_i hc
      split at h
      case h_1 =>
        rw [List.mem_singleton.mp h, List.mem_singleton]
        exact Ne.symm hc
      case h_2 f fs hf =>
        rcases List.mem_cons.mp h with rfl | h
        · exact List.not_mem_cons_of_ne_of_not_mem (Ne.symm hc) (ih (hf ▸ List.mem_cons_self))
        · exact ih (hf ▸ List.mem_cons_of_mem f h)

end Text

namespace Path

/-- A piece of a path that means something. -/
def IsName (piece : Text) : Prop := isSilent piece = false ∧ '/' ∉ piece

instance (piece : Text) : Decidable (IsName piece) :=
  inferInstanceAs (Decidable (isSilent piece = false ∧ '/' ∉ piece))

/-- What a name stands for in a path. -/
def componentOf (name : Text) : Component := if name = ['.', '.'] then .parent else .named name

theorem componentOf_injective : Function.Injective componentOf := by
  intro a b h
  rw [componentOf, componentOf] at h
  split at h <;> split at h
  · rename_i ha hb
    rw [ha, hb]
  · cases h
  · cases h
  · exact Component.named.inj h

theorem IsName.ofPiece? {name : Text} (h : IsName name) :
    Component.ofPiece? name = some (componentOf name) := by
  have hsilent : ¬(name = [] ∨ name = ['.']) := by simpa [isSilent] using h.1
  rw [Component.ofPiece?, if_neg hsilent, componentOf]
  split <;> rfl

theorem map_fst_steps (ps : List Text) :
    (steps false ps).map Prod.fst = ps.filterMap Component.ofPiece? := by
  induction ps with
  | nil => rfl
  | cons p ps ih =>
    rw [steps, List.map_append, ih, List.filterMap_cons]
    cases Component.ofPiece? p <;> simp

variable {names others : List Text}

theorem isName_of_mem_append (h : ∀ name ∈ names, IsName name) {piece : Text}
    (hp : IsName piece) : ∀ name ∈ names ++ [piece], IsName name := by
  intro name hn
  rcases List.mem_append.mp hn with hn | hn
  · exact h name hn
  · rw [List.mem_singleton.mp hn]
    exact hp

theorem pieces_ofNames (h : ∀ name ∈ names, IsName name) (hne : names ≠ []) :
    (ofNames names).pieces = [] :: names := by
  rw [pieces, ofNames, String.toList_ofList, Text.fields, if_pos rfl,
    Text.fields_intercalate (fun name hn => (h name hn).2) hne]

theorem components_ofNames (h : ∀ name ∈ names, IsName name) :
    (ofNames names).components = .root :: names.map componentOf := by
  cases names with
  | nil => rfl
  | cons name names =>
    have hall : (name :: names).filterMap Component.ofPiece? =
        (name :: names).map componentOf := by
      rw [← List.filterMap_eq_map]
      exact List.filterMap_congr fun n hn => (h n hn).ofPiece?
    rw [components, pieces_ofNames h (List.cons_ne_nil name names), steps, List.map_append,
      map_fst_steps, hall]
    rfl

theorem eq_of_components_eq (h : ∀ name ∈ names, IsName name)
    (h' : ∀ name ∈ others, IsName name)
    (he : (ofNames names).components = (ofNames others).components) : names = others := by
  rw [components_ofNames h, components_ofNames h'] at he
  exact List.map_injective_iff.mpr componentOf_injective (List.cons.inj he).2

theorem ofNames_inj (h : ∀ name ∈ names, IsName name) (h' : ∀ name ∈ others, IsName name)
    (he : ofNames names = ofNames others) : names = others :=
  eq_of_components_eq h h' (congrArg components he)

theorem eq_of_same (h : ∀ name ∈ names, IsName name) (h' : ∀ name ∈ others, IsName name)
    (hs : same (ofNames names) (ofNames others) = true) : ofNames names = ofNames others :=
  congrArg ofNames (eq_of_components_eq h h' (beq_iff_eq.mp hs))

end Path

namespace FileTree

/-- All names in the tree are names that a path can hold. -/
def WellNamed (t : FileTree) : Prop := ∀ k ∈ t.entries.keys, ∀ name ∈ k, Path.IsName name

instance (t : FileTree) : Decidable t.WellNamed :=
  inferInstanceAs (Decidable (∀ k ∈ t.entries.keys, ∀ name ∈ k, Path.IsName name))

end FileTree

end CommentTags
