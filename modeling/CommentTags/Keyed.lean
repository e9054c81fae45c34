/-!
Values under distinct keys, in the order in which the keys were last given.
-/
namespace CommentTags

structure Keyed (κ α : Type) where
  entries : List (κ × α)
  nodup_keys : (entries.map Prod.fst).Nodup

namespace Keyed

variable {κ α : Type}

theorem eq_of_entries_eq {m n : Keyed κ α} (h : m.entries = n.entries) : m = n := by
  cases m
  cases n
  cases h
  rfl

instance [DecidableEq κ] [DecidableEq α] : DecidableEq (Keyed κ α) := fun m n =>
  decidable_of_iff (m.entries = n.entries) ⟨eq_of_entries_eq, fun h => h ▸ rfl⟩

def empty : Keyed κ α := ⟨[], List.nodup_nil⟩

instance : Inhabited (Keyed κ α) := ⟨empty⟩

variable (m : Keyed κ α)

def keys : List κ := m.entries.map Prod.fst

def size : Nat := m.entries.length

def isEmpty : Bool := m.entries.isEmpty

variable [DecidableEq κ]

/-- The entries under other keys. -/
def others (k : κ) : List (κ × α) :=
  m.entries.filter fun e => e.1 ≠ k

theorem others_sublist (k : κ) : (m.others k).Sublist m.entries :=
  List.filter_sublist

theorem nodup_others (k : κ) : ((m.others k).map Prod.fst).Nodup :=
  m.nodup_keys.sublist ((m.others_sublist k).map _)

theorem not_mem_others (k : κ) : k ∉ (m.others k).map Prod.fst := by
  simp [others]

def get? (k : κ) : Option α :=
  (m.entries.find? fun e => e.1 = k).map Prod.snd

def contains (k : κ) : Bool := (m.get? k).isSome

/-- A value that was there under the key gives way. -/
def insert (k : κ) (a : α) : Keyed κ α where
  entries := m.others k ++ [(k, a)]
  nodup_keys := by
    rw [List.map_append, List.nodup_append]
    refine ⟨m.nodup_others k, by simp, fun x hx y hy hxy => m.not_mem_others k ?_⟩
    have hk : x = k := hxy.trans (by simpa using hy)
    exact hk ▸ hx

def erase (k : κ) : Keyed κ α := ⟨m.others k, m.nodup_others k⟩

theorem get?_empty (k : κ) : (empty : Keyed κ α).get? k = none := rfl

theorem find?_others (j k : κ) :
    ((m.others j).find? fun e => e.1 = k) =
      if k = j then none else m.entries.find? fun e => e.1 = k := by
  rw [others, List.find?_filter]
  split
  case isTrue h =>
    subst h
    simp
  case isFalse h =>
    congr 1
    funext e
    by_cases he : e.1 = k
    · simp [he, h]
    · simp [he]

theorem get?_insert (j k : κ) (a : α) :
    (m.insert j a).get? k = if k = j then some a else m.get? k := by
  simp only [get?, insert, List.find?_append, find?_others]
  split
  case isTrue h => simp [h]
  case isFalse h => simp [Ne.symm h]

theorem get?_erase (j k : κ) : (m.erase j).get? k = if k = j then none else m.get? k := by
  simp only [get?, erase, find?_others]
  split <;> rfl

theorem mem_keys_insert {j k : κ} {a : α} (h : j ∈ (m.insert k a).keys) : j = k ∨ j ∈ m.keys := by
  rw [keys, insert, List.map_append, List.mem_append] at h
  rcases h with h | h
  · exact .inr (((m.others_sublist k).map Prod.fst).subset h)
  · exact .inl (by simpa using h)

theorem mem_keys_erase {j k : κ} (h : j ∈ (m.erase k).keys) : j ∈ m.keys :=
  ((m.others_sublist k).map Prod.fst).subset h

/-- The later of two entries under one key wins. -/
def ofList (es : List (κ × α)) : Keyed κ α :=
  es.foldl (fun m e => m.insert e.1 e.2) empty

end Keyed

end CommentTags
