import Mathlib.Data.List.Nodup
import CommentTags.Keyed

/-!
What a keyed store holds under each key, however its entries came into it.
-/
namespace CommentTags.Keyed

variable {κ α : Type} [DecidableEq κ] {m n : Keyed κ α} {es : List (κ × α)} {k : κ} {a : α}

theorem mem_entries_iff : (k, a) ∈ m.entries ↔ m.get? k = some a := by
  rw [get?]
  constructor
  · intro hmem
    obtain ⟨e, he⟩ : ∃ e, m.entries.find? (fun e => e.1 = k) = some e := by
      apply Option.isSome_iff_exists.mp
      rw [List.find?_isSome]
      exact ⟨(k, a), hmem, decide_eq_true rfl⟩
    have hkey : e.1 = k := by simpa using List.find?_some he
    have hentry : e = (k, a) :=
      List.inj_on_of_nodup_map m.nodup_keys (List.mem_of_find?_eq_some he) hmem hkey
    rw [he, hentry]
    rfl
  · intro h
    obtain ⟨e, he, rfl⟩ := Option.map_eq_some_iff.mp h
    have hkey : e.1 = k := by simpa using List.find?_some he
    rw [← hkey]
    exact List.mem_of_find?_eq_some he

theorem mem_keys_iff : k ∈ m.keys ↔ ∃ a, m.get? k = some a := by
  rw [keys, List.mem_map]
  constructor
  · rintro ⟨⟨_, a⟩, hmem, rfl⟩
    exact ⟨a, mem_entries_iff.mp hmem⟩
  · rintro ⟨a, h⟩
    exact ⟨(k, a), mem_entries_iff.mpr h, rfl⟩

/-- The entries are the same if each key has the same value. -/
theorem entries_perm (h : ∀ k, m.get? k = n.get? k) : m.entries.Perm n.entries := by
  apply (List.perm_ext_iff_of_nodup m.nodup_keys.of_map n.nodup_keys.of_map).mpr
  rintro ⟨k, a⟩
  rw [mem_entries_iff, mem_entries_iff, h]

theorem get?_foldl_insert (huniq : ∀ b, (k, b) ∈ es → b = a)
    (h : m.get? k = some a ∨ (k, a) ∈ es) :
    (es.foldl (fun m e => m.insert e.1 e.2) m).get? k = some a := by
  induction es generalizing m with
  | nil =>
    rcases h with h | h
    · exact h
    · cases h
  | cons e es ih =>
    apply ih fun b hb => huniq b (List.mem_cons_of_mem e hb)
    by_cases hk : k = e.1
    · have ha : e.2 = a := huniq e.2 (hk ▸ List.mem_cons_self)
      left
      rw [get?_insert, if_pos hk, ha]
    · rcases h with h | h
      · left
        rw [get?_insert, if_neg hk, h]
      · right
        rcases List.mem_cons.mp h with rfl | h
        · exact (hk rfl).elim
        · exact h

/-- A key that is given one value alone has that value. -/
theorem get?_ofList (hmem : (k, a) ∈ es) (huniq : ∀ b, (k, b) ∈ es → b = a) :
    (ofList es).get? k = some a :=
  get?_foldl_insert huniq (.inr hmem)

theorem entries_insert_of_not_mem (h : k ∉ m.keys) (a : α) :
    (m.insert k a).entries = m.entries ++ [(k, a)] := by
  have hothers : m.others k = m.entries := by
    apply List.filter_eq_self.mpr
    intro e he
    have hne : e.1 ≠ k := fun hk => h (hk ▸ List.mem_map_of_mem he)
    exact decide_eq_true hne
  change m.others k ++ [(k, a)] = _
  rw [hothers]

theorem entries_foldl_insert (hd : ((m.entries ++ es).map Prod.fst).Nodup) :
    (es.foldl (fun m e => m.insert e.1 e.2) m).entries = m.entries ++ es := by
  induction es generalizing m with
  | nil => exact (List.append_nil _).symm
  | cons e es ih =>
    have hsplit : m.entries ++ e :: es = (m.entries ++ [e]) ++ es := by simp
    have hnew : e.1 ∉ m.keys := by
      rw [List.map_append, List.nodup_append] at hd
      intro hmem
      exact hd.2.2 e.1 hmem e.1 List.mem_cons_self rfl
    have hentries : (m.insert e.1 e.2).entries = m.entries ++ [e] :=
      entries_insert_of_not_mem hnew e.2
    rw [hsplit, ← hentries] at hd
    rw [List.foldl_cons, ih hd, hentries, hsplit]

/-- A store is found again from the list of its entries. -/
theorem ofList_entries (m : Keyed κ α) : ofList m.entries = m :=
  eq_of_entries_eq (entries_foldl_insert (m := empty) m.nodup_keys)

end CommentTags.Keyed
