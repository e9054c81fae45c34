import CommentTags.Proofs.Pattern.Cursor

/-!
Where matches end: never before they begin, and the removal of repeated places neither adds
places nor changes the preferred one.
-/
namespace CommentTags.Pattern

theorem mem_of_mem_distinctFrom {seen : Std.HashSet Nat} {cs : List Cursor} {e : Cursor}
    (h : e ∈ distinctFrom seen cs) : e ∈ cs := by
  induction cs generalizing seen with
  | nil => exact h
  | cons c cs ih =>
    rw [distinctFrom] at h
    split at h
    · exact List.mem_cons_of_mem c (ih h)
    · rcases List.mem_cons.mp h with rfl | h
      · exact List.mem_cons_self
      · exact List.mem_cons_of_mem c (ih h)

theorem mem_of_mem_distinct {cs : List Cursor} {e : Cursor} (h : e ∈ distinct cs) : e ∈ cs := by
  match cs with
  | [] => exact h
  | [c] => exact h
  | c :: d :: cs => exact mem_of_mem_distinctFrom h

theorem head?_distinct (cs : List Cursor) : (distinct cs).head? = cs.head? := by
  match cs with
  | [] => rfl
  | [c] => rfl
  | c :: d :: cs =>
    have hd : distinct (c :: d :: cs) = distinctFrom ∅ (c :: d :: cs) := rfl
    rw [hd, distinctFrom]
    simp

/-- Where what comes next always has an end, a sequence goes on from the preferred one. -/
theorem head?_seq_ends {p q : Pattern} {c : Cursor} {g : Cursor → Cursor}
    (h : ∀ m, (p.ends c).head? = some m → (q.ends m).head? = some (g m)) :
    ((seq p q).ends c).head? = (p.ends c).head?.map g := by
  have hseq : (seq p q).ends c = distinct ((p.ends c).flatMap q.ends) := by rw [ends]
  rw [hseq, head?_distinct]
  cases hp : p.ends c with
  | nil => rfl
  | cons m ms =>
    have hm : (q.ends m).head? = some (g m) := h m (by rw [hp, List.head?_cons])
    rw [List.flatMap_cons, List.head?_append, hm, List.head?_cons]
    rfl

/-- What holds of a place and is kept by the step holds wherever repeating the step may end. -/
theorem explore_ends {P : Cursor → Prop} {step : Cursor → List Cursor}
    (hstep : ∀ c, P c → ∀ e ∈ step c, P e) (limited greedy : Bool) (left : Nat) {t : Trail}
    {c : Cursor} (hc : P c) (ht : ∀ e ∈ t.ends, P e) :
    ∀ e ∈ (explore step limited greedy left t c).ends, P e := by
  have emit : ∀ (t : Trail) (c : Cursor), P c → (∀ e ∈ t.ends, P e) →
      ∀ e ∈ (t.emit c).ends, P e := by
    intro t c hc ht e he
    rcases List.mem_cons.mp he with rfl | he
    · exact hc
    · exact ht e he
  induction left generalizing t c with
  | zero => exact emit t c hc ht
  | succ left ih =>
    -- The steps from one place add to the trail one after the other.
    have fold : ∀ (cs : List Cursor) (t : Trail), (∀ e ∈ cs, P e) → (∀ e ∈ t.ends, P e) →
        ∀ e ∈ (cs.foldl (fun t e =>
          if !limited && e.index == c.index then t.emit e
          else explore step limited greedy left t e) t).ends, P e := by
      intro cs
      induction cs with
      | nil => intro t _ ht; exact ht
      | cons d cs ihcs =>
        intro t hcs ht
        rw [List.foldl_cons]
        apply ihcs _ (fun e he => hcs e (List.mem_cons_of_mem d he))
        have hd : P d := hcs d List.mem_cons_self
        split
        · exact emit t d hd ht
        · exact ih hd ht
    rw [explore]
    by_cases hseen : t.seen.contains (if limited then left + 1 else 0, c.index) = true
    · rw [if_pos hseen]
      exact ht
    · rw [if_neg hseen]
      cases greedy with
      | true => exact emit _ c hc (fold _ _ (hstep c hc) ht)
      | false => exact fold _ _ (hstep c hc) (emit _ c hc ht)

theorem stepOver_reaches {s : CharClass} {c e : Cursor} (h : e ∈ stepOver s c) :
    c.Reaches e := by
  have hn : e = c.next := by
    cases hr : c.rest with
    | nil =>
      simp only [stepOver, hr] at h
      cases h
    | cons d t =>
      simp only [stepOver, hr] at h
      split at h
      · rw [List.mem_singleton.mp h, Cursor.next, hr]
      · cases h
  rw [hn]
  exact c.reaches_next

theorem stretch_reaches {s : CharClass} {c : Cursor} {passed : List Cursor}
    (h : ∀ e ∈ passed, c.Reaches e) {i : Nat} {before : Option Char} {t : Text}
    (hc : c.Reaches ⟨i, before, t⟩) : ∀ e ∈ stretch s passed i before t, c.Reaches e := by
  induction t generalizing i before passed with
  | nil =>
    intro e he
    rcases List.mem_cons.mp he with rfl | he
    · exact hc
    · exact h e he
  | cons d t ih =>
    have hmore : ∀ e ∈ (⟨i, before, d :: t⟩ : Cursor) :: passed, c.Reaches e := by
      intro e he
      rcases List.mem_cons.mp he with rfl | he
      · exact hc
      · exact h e he
    rw [stretch]
    split
    · exact ih hmore (hc.trans (Cursor.reaches_next _))
    · exact hmore

theorem power_reaches {step : Cursor → List Cursor}
    (hstep : ∀ c, ∀ e ∈ step c, c.Reaches e) (n : Nat) {c : Cursor} {cs : List Cursor}
    (h : ∀ e ∈ cs, c.Reaches e) : ∀ e ∈ power step n cs, c.Reaches e := by
  induction n generalizing cs with
  | zero => exact h
  | succ n ih =>
    apply ih
    intro e he
    obtain ⟨d, hd, hde⟩ := List.mem_flatMap.mp (mem_of_mem_distinct he)
    exact (h d hd).trans (hstep d e hde)

theorem repeated_reaches {step : Cursor → List Cursor}
    (hstep : ∀ c, ∀ e ∈ step c, c.Reaches e) {limit : Option Nat} {greedy : Bool} {c e : Cursor}
    (h : e ∈ repeated step limit greedy c) : c.Reaches e :=
  explore_ends (P := c.Reaches) (fun d hd e he => hd.trans (hstep d e he)) _ _ _
    (Cursor.Reaches.refl c) (by simp) e (List.mem_reverse.mp (mem_of_mem_distinct h))

/-- A match ends at its beginning or after it. -/
theorem ends_reaches (p : Pattern) {c e : Cursor} (h : e ∈ p.ends c) : c.Reaches e := by
  induction p generalizing c e with
  | empty => rw [List.mem_singleton.mp h]; exact .refl c
  | one s => exact stepOver_reaches h
  | look l =>
    rw [ends] at h
    split at h
    · rw [List.mem_singleton.mp h]
      exact .refl c
    · cases h
  | seq p q ihp ihq =>
    obtain ⟨d, hd, he⟩ := List.mem_flatMap.mp (mem_of_mem_distinct h)
    exact (ihp hd).trans (ihq he)
  | alt p q ihp ihq =>
    rcases List.mem_append.mp (mem_of_mem_distinct h) with h | h
    · exact ihp h
    · exact ihq h
  | times p n ih =>
    exact power_reaches (fun c e he => ih he) n (by simp [Cursor.Reaches.refl]) e h
  | iterate p limit greedy ih =>
    by_cases hone : ∃ s, p = one s ∧ limit = none
    · obtain ⟨s, rfl, rfl⟩ := hone
      have hs : ∀ e ∈ stretch s [] c.index c.before c.rest, c.Reaches e :=
        stretch_reaches (by simp) (.refl c)
      rw [ends] at h
      split at h
      · exact hs e h
      · exact hs e (List.mem_reverse.mp h)
    · rw [ends] at h
      · exact repeated_reaches (fun c e he => ih he) h
      · intro s hp hl
        exact hone ⟨s, hp, hl⟩

end CommentTags.Pattern
