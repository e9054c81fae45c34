import CommentTags.Pattern
import Mathlib.Data.List.Basic

/-!
Places of one text, and the search for the first of them that has an answer.
-/
namespace CommentTags

namespace Cursor

/-- One character further; at the end of the text, the same place. -/
def next (c : Cursor) : Cursor :=
  match c.rest with
  | [] => c
  | d :: t => ⟨c.index + 1, some d, t⟩

def advance (c : Cursor) : Nat → Cursor
  | 0 => c
  | n + 1 => c.next.advance n

/-- The end of the text. -/
def finish (c : Cursor) : Cursor := c.advance c.rest.length

/-- `e` is the place `c` or one after it. -/
def Reaches (c e : Cursor) : Prop := ∃ n, e = c.advance n

variable {c d e : Cursor}

theorem advance_advance (c : Cursor) (n m : Nat) :
    (c.advance n).advance m = c.advance (n + m) := by
  induction n generalizing c with
  | zero => rw [Nat.zero_add]; rfl
  | succ n ih => rw [Nat.succ_add]; exact ih c.next

theorem rest_next (c : Cursor) : c.next.rest = c.rest.drop 1 := by
  rw [next]
  split
  case h_1 h => rw [h]; rfl
  case h_2 d t h => rw [h]; rfl

theorem rest_advance (c : Cursor) (n : Nat) : (c.advance n).rest = c.rest.drop n := by
  induction n generalizing c with
  | zero => rfl
  | succ n ih => rw [advance, ih, rest_next, List.drop_drop, Nat.add_comm]

theorem index_advance {n : Nat} (h : n ≤ c.rest.length) : (c.advance n).index = c.index + n := by
  induction n generalizing c with
  | zero => rfl
  | succ n ih =>
    cases hr : c.rest with
    | nil => simp [hr] at h
    | cons d t =>
      have hn : c.next = ⟨c.index + 1, some d, t⟩ := by rw [next, hr]
      rw [advance, hn, ih (by simpa [hr] using h)]
      exact Nat.add_right_comm c.index 1 n

theorem advance_of_rest_eq_nil (h : c.rest = []) (n : Nat) : c.advance n = c := by
  have hn : c.next = c := by rw [next, h]
  induction n with
  | zero => rfl
  | succ n ih => rw [advance, hn, ih]

theorem rest_finish (c : Cursor) : c.finish.rest = [] := by
  rw [finish, rest_advance, List.drop_length]

theorem Reaches.refl (c : Cursor) : c.Reaches c := ⟨0, rfl⟩

theorem Reaches.trans (h : c.Reaches d) (h' : d.Reaches e) : c.Reaches e := by
  obtain ⟨n, rfl⟩ := h
  obtain ⟨m, rfl⟩ := h'
  exact ⟨n + m, c.advance_advance n m⟩

theorem reaches_next (c : Cursor) : c.Reaches c.next := ⟨1, rfl⟩

theorem Reaches.rest_suffix (h : c.Reaches e) : e.rest <:+ c.rest := by
  obtain ⟨n, rfl⟩ := h
  rw [rest_advance]
  exact List.drop_suffix n c.rest

/-- A text has no places past its end. -/
theorem Reaches.exists_le (h : c.Reaches e) : ∃ n ≤ c.rest.length, e = c.advance n := by
  obtain ⟨n, rfl⟩ := h
  by_cases hn : n ≤ c.rest.length
  · exact ⟨n, hn, rfl⟩
  · refine ⟨c.rest.length, Nat.le_refl _, ?_⟩
    have hend : (c.advance c.rest.length).rest = [] := c.rest_finish
    rw [← Nat.add_sub_cancel' (Nat.le_of_not_le hn), ← advance_advance,
      advance_of_rest_eq_nil hend]

theorem Reaches.finish_eq (h : c.Reaches e) : e.finish = c.finish := by
  obtain ⟨n, hn, rfl⟩ := h.exists_le
  rw [finish, finish, advance_advance, rest_advance, List.length_drop, Nat.add_sub_cancel' hn]

end Cursor

namespace Pattern

variable {α β : Type}

theorem search_eq_findSome? (f : Cursor → Option α) (i : Nat) (before : Option Char) (t : Text) :
    search f i before t =
      (List.range (t.length + 1)).findSome? fun n => f ((⟨i, before, t⟩ : Cursor).advance n) := by
  induction t generalizing i before with
  | nil =>
    rw [search]
    simp [Cursor.advance]
  | cons d t ih =>
    rw [search, List.length_cons, List.range_succ_eq_map, List.findSome?_cons, List.findSome?_map]
    have hstart : (⟨i, before, d :: t⟩ : Cursor).advance 0 = ⟨i, before, d :: t⟩ := rfl
    rw [hstart]
    cases f ⟨i, before, d :: t⟩ with
    | some a => rfl
    | none => exact ih (i + 1) (some d)

theorem search_map (f : Cursor → Option α) (g : α → β) (t : Text) :
    search (fun c => (f c).map g) 0 none t = (search f 0 none t).map g := by
  rw [search_eq_findSome?, search_eq_findSome?, List.map_findSome?]
  rfl

theorem search_congr {f g : Cursor → Option α} {t : Text}
    (h : ∀ c, (Cursor.atStart t).Reaches c → f c = g c) :
    search f 0 none t = search g 0 none t := by
  rw [search_eq_findSome?, search_eq_findSome?]
  congr 1
  funext n
  exact h _ ⟨n, rfl⟩

end Pattern

end CommentTags
