import Mathlib.Data.List.Nodup
import CommentTags.Comment.Languages
import CommentTags.Proofs.Comment.Proper
import CommentTags.Proofs.Text.LowerCase

/-!
Looking up languages. Every identifier in a table is in lower case, so case never counts, and of a
user's languages that are one but for their case the last is found before any that is built in.
-/
namespace CommentTags.Languages

variable {t : Languages}

/-- All identifiers are in lower case. -/
def IsLowered (t : Languages) : Prop := ∀ e ∈ t.entries, lowerCase e.1 = e.1

theorem isLowered_standard : standard.IsLowered := by
  have hall : builtin.all (fun e => lowerCase e.1 == e.1) = true := by decide +kernel
  intro e he
  exact beq_iff_eq.mp (List.all_eq_true.mp hall e he)

theorem IsLowered.insert (ht : t.IsLowered) (name : String) (m : Markers) :
    (t.insert name m).IsLowered := by
  intro e he
  rcases List.mem_append.mp he with he | he
  · exact ht e (List.mem_filter.mp he).1
  · rw [List.mem_singleton.mp he]
    exact lowerCase_lowerCase name

/-- That the identifier is tried as it stands makes no difference. -/
theorem IsLowered.get?_eq (ht : t.IsLowered) (name : String) :
    t.get? name = t.entries.lookup (lowerCase name) := by
  rw [get?]
  cases h : t.entries.lookup name with
  | none => rfl
  | some m =>
    have hname : lowerCase name = name := ht (name, m) (mem_of_lookup h)
    rw [hname, h]
    rfl

theorem lookup_filter_ne (es : List (String × Markers)) (key other : String) :
    (es.filter fun e => e.1 != other).lookup key =
      if key = other then none else es.lookup key := by
  induction es with
  | nil => simp
  | cons e es ih =>
    obtain ⟨name, m⟩ := e
    have hcons : List.lookup key ((name, m) :: es) =
        if key = name then some m else es.lookup key := by
      rw [List.lookup_cons]
      by_cases hk : key = name
      · simp [hk]
      · simp [beq_eq_false_iff_ne.mpr hk, hk]
    rw [List.filter_cons, hcons]
    by_cases hname : name = other
    · subst hname
      rw [if_neg (by simp), ih]
      split <;> rfl
    · rw [if_pos (by simpa using hname), List.lookup_cons, ih]
      by_cases hk : key = name
      · simp [hk, hname]
      · simp [beq_eq_false_iff_ne.mpr hk, hk]

theorem lookup_insert (t : Languages) (name key : String) (m : Markers) :
    (t.insert name m).entries.lookup key =
      if key = lowerCase name then some m else t.entries.lookup key := by
  rw [insert, List.lookup_append, lookup_filter_ne]
  by_cases hk : key = lowerCase name
  · simp [hk]
  · simp [hk, beq_eq_false_iff_ne.mpr hk, List.lookup_cons]

/-- The markers of the last language that is called so, whatever the case. -/
def lastOf? (given : List (String × Markers)) (name : String) : Option Markers :=
  (given.reverse.find? fun e => lowerCase e.1 = lowerCase name).map Prod.snd

theorem lastOf?_cons (e : String × Markers) (given : List (String × Markers)) (name : String) :
    lastOf? (e :: given) name =
      (lastOf? given name).or (if lowerCase e.1 = lowerCase name then some e.2 else none) := by
  rw [lastOf?, List.reverse_cons, List.find?_append, lastOf?]
  cases given.reverse.find? fun e => lowerCase e.1 = lowerCase name with
  | some f => rfl
  | none =>
    by_cases he : lowerCase e.1 = lowerCase name
    · simp [he]
    · simp [he]

theorem get?_insert (ht : t.IsLowered) (e : String × Markers) (name : String) :
    (t.insert e.1 e.2).get? name =
      (if lowerCase e.1 = lowerCase name then some e.2 else none).or (t.get? name) := by
  have hinsert : (t.insert e.1 e.2).IsLowered := ht.insert e.1 e.2
  rw [hinsert.get?_eq, ht.get?_eq, lookup_insert]
  by_cases he : lowerCase e.1 = lowerCase name
  · simp [he]
  · simp [he, Ne.symm he]

theorem get?_foldl_insert (ht : t.IsLowered) (given : List (String × Markers)) (name : String) :
    (given.foldl (fun t e => t.insert e.1 e.2) t).get? name =
      (lastOf? given name).or (t.get? name) := by
  induction given generalizing t with
  | nil => rfl
  | cons e given ih =>
    rw [List.foldl_cons, ih (ht.insert e.1 e.2), get?_insert ht, lastOf?_cons, Option.or_assoc]

theorem get?_withOverrides (given : List (String × Markers)) (name : String) :
    (withOverrides given).get? name = (lastOf? given name).or (standard.get? name) :=
  get?_foldl_insert isLowered_standard given name

/-- A language whose name no other has, whatever the case, is found by it. -/
theorem lastOf?_eq_some {given : List (String × Markers)} {name : String} {m : Markers}
    (hd : (given.map fun e => lowerCase e.1).Nodup) (hmem : (name, m) ∈ given) :
    lastOf? given name = some m := by
  obtain ⟨e, he⟩ : ∃ e, given.reverse.find? (fun e => lowerCase e.1 = lowerCase name) = some e := by
    apply Option.isSome_iff_exists.mp
    rw [List.find?_isSome]
    exact ⟨(name, m), List.mem_reverse.mpr hmem, decide_eq_true rfl⟩
  have hname : lowerCase e.1 = lowerCase name := by simpa using List.find?_some he
  have hentry : e = (name, m) :=
    List.inj_on_of_nodup_map hd (List.mem_reverse.mp (List.mem_of_find?_eq_some he)) hmem hname
  rw [lastOf?, he, hentry]
  rfl

end CommentTags.Languages
