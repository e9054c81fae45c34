import CommentTags.Proofs.Toml.Values

/-!
A document is read item by item as it was written.
-/
namespace CommentTags.Toml

/-- An item with a path that can be read, and a value of strings, numbers and truth values. -/
inductive Item.Plain : Item → Prop where
  | header {path : List Text} {isElement : Bool} (hne : path ≠ [])
    (hdepth : path.length ≤ maxDepth) : Plain (.header path isElement)
  | pair {path : List Text} {v : Value} (hne : path ≠ []) (hdepth : path.length ≤ maxDepth)
    (hv : v.Plain maxDepth) : Plain (.pair path v)

variable {path : List Text} {v : Value}

/-- The end of a header is no part of its path. -/
theorem path?_header (hne : path ≠ []) (hdepth : path.length ≤ maxDepth) (rest : Text) :
    path? maxDepth (pathText path ++ ']' :: rest) = some (path, ']' :: rest) := by
  have hrest : ∀ c ∈ (']' :: rest).head?, isBare c = false := by
    intro c hc
    cases hc
    rfl
  have hskip : skipSpaces (']' :: rest) = ']' :: rest := skipSpaces_cons rfl
  have hread := path?_pathText hne hdepth hrest (by rw [hskip]; exact fun h => by cases h)
  rw [hskip] at hread
  exact hread

theorem header?_element (hne : path ≠ []) (hdepth : path.length ≤ maxDepth) (rest : Text) :
    header? ('[' :: (pathText path ++ ']' :: ']' :: '\n' :: rest)) =
      some (.header path true, rest) := by
  rw [header?, path?_header hne hdepth]
  rfl

theorem header?_table (hne : path ≠ []) (hdepth : path.length ≤ maxDepth) (rest : Text) :
    header? (pathText path ++ ']' :: '\n' :: rest) = some (.header path false, rest) := by
  have hread := path?_header hne hdepth ('\n' :: rest)
  obtain ⟨c, u, h, hc⟩ := pathText_eq_cons hne
  have hbracket : c ≠ '[' := hc.ne (by decide)
  rw [h] at hread ⊢
  unfold header?
  split
  case h_1 he => exact (hbracket (List.cons_eq_cons.mp he).1).elim
  case h_2 =>
    rw [hread]
    rfl

theorem pair?_pathText (hne : path ≠ []) (hdepth : path.length ≤ maxDepth)
    (hv : v.Plain maxDepth) (rest : Text) :
    pair? (value? maxDepth) (pathText path ++ ' ' :: '=' :: ' ' :: (valueText v ++ '\n' :: rest)) =
      some ((path, v), '\n' :: rest) := by
  have hrest : ∀ c ∈ (' ' :: '=' :: ' ' :: (valueText v ++ '\n' :: rest)).head?,
      isBare c = false := by
    intro c hc
    cases hc
    rfl
  have hpath := path?_pathText hne hdepth hrest (fun h => by cases h)
  have hend : EndsValue ('\n' :: rest) := ⟨_, _, rfl, .inl rfl⟩
  have hvalue := value?_valueText hv hend
  have hskip : skipSpaces (' ' :: (valueText v ++ '\n' :: rest)) = valueText v ++ '\n' :: rest := by
    obtain ⟨c, u, h, hc⟩ := valueText_eq_cons hv
    rw [h]
    exact skipSpaces_cons hc.isSpace_eq
  rw [pair?, hpath]
  change (value? maxDepth (skipSpaces (' ' :: (valueText v ++ '\n' :: rest))) >>= fun r =>
    pure ((path, r.1), r.2)) = _
  rw [hskip, hvalue]
  rfl

theorem items?_bracket (n : Nat) (t : Text) :
    items? (n + 1) ('[' :: t) =
      (header? t).bind fun r => (items? n r.2).map (r.1 :: ·) := by
  have hskip : skipSpaces ('[' :: t) = '[' :: t := skipSpaces_cons rfl
  rw [items?, hskip]
  change (header? t >>= fun r => items? n r.2 >>= fun later => pure (r.1 :: later)) = _
  cases header? t with
  | none => rfl
  | some r => cases h : items? n r.2 <;> simp [h]

theorem items?_lineEnd (n : Nat) (t : Text) : items? (n + 1) ('\n' :: t) = items? n t := by
  have hskip : skipSpaces ('\n' :: t) = '\n' :: t := skipSpaces_cons rfl
  rw [items?, hskip]
  rfl

theorem items?_pair (n : Nat) {c : Char} (hc : BeginsKey c) (t : Text) :
    items? (n + 1) (c :: t) =
      (pair? (value? maxDepth) (c :: t)).bind fun r =>
        (endLine? false r.2).bind fun u => (items? n u).map (.pair r.1.1 r.1.2 :: ·) := by
  have hskip : skipSpaces (c :: t) = c :: t := skipSpaces_cons hc.isSpace_eq
  have hbracket : c ≠ '[' := hc.ne (by decide)
  have hother : ¬(c = '#' ∨ c = '\n' ∨ c = '\r') := by
    rintro (h | h | h)
    · exact hc.ne (by decide) h
    · exact hc.ne (by decide) h
    · exact hc.ne (by decide) h
  rw [items?, hskip]
  split
  case h_1 he => cases he
  case h_2 he => exact (hbracket (List.cons_eq_cons.mp he).1).elim
  case h_3 he =>
    obtain ⟨rfl, rfl⟩ := List.cons_eq_cons.mp he
    rw [if_neg hother]
    cases pair? (value? maxDepth) (c :: t) with
    | none => rfl
    | some r =>
      cases h : endLine? false r.2 with
      | none => simp [h]
      | some u => cases h' : items? n u <;> simp [h, h']

theorem items?_itemText {item : Item} (hitem : item.Plain) (n : Nat) (rest : Text) :
    items? (n + 1) (itemText item ++ rest) = (items? n rest).map (item :: ·) := by
  cases hitem with
  | @header path isElement hne hdepth =>
    cases isElement with
    | true =>
      have htext : itemText (.header path true) ++ rest =
          '[' :: '[' :: (pathText path ++ ']' :: ']' :: '\n' :: rest) := by
        simp [itemText]
      rw [htext, items?_bracket, header?_element hne hdepth]
      rfl
    | false =>
      have htext : itemText (.header path false) ++ rest =
          '[' :: (pathText path ++ ']' :: '\n' :: rest) := by
        simp [itemText]
      rw [htext, items?_bracket, header?_table hne hdepth]
      rfl
  | @pair path v hne hdepth hv =>
    have htext : itemText (.pair path v) ++ rest =
        pathText path ++ ' ' :: '=' :: ' ' :: (valueText v ++ '\n' :: rest) := by
      simp [itemText]
    have hread := pair?_pathText hne hdepth hv rest
    obtain ⟨c, u, h, hc⟩ := pathText_eq_cons hne
    rw [htext]
    rw [h] at hread ⊢
    rw [List.cons_append, items?_pair n hc, ← List.cons_append, hread]
    rfl

theorem itemText_ne_nil (item : Item) : itemText item ≠ [] := by
  cases item with
  | header path isElement => cases isElement <;> simp [itemText]
  | pair path v => simp [itemText]

/-- The items after the first one are read with as many steps as they have characters. -/
theorem items?_restText {items : List Item} (hitems : ∀ item ∈ items, item.Plain) {n : Nat}
    (hn : (restText items).length < n) : items? n (restText items) = some items := by
  induction items generalizing n with
  | nil =>
    obtain ⟨n, rfl⟩ := Nat.exists_eq_succ_of_ne_zero (Nat.ne_of_gt hn)
    rfl
  | cons item items ih =>
    have hitem := hitems item List.mem_cons_self
    have hlater := fun n => ih (fun i hi => hitems i (List.mem_cons_of_mem item hi)) (n := n)
    have hlength : 0 < (itemText item).length := List.length_pos_iff.mpr (itemText_ne_nil item)
    by_cases hheader : item.isHeader = true
    · have htext : restText (item :: items) = '\n' :: (itemText item ++ restText items) := by
        simp [restText, hheader]
      rw [htext] at hn ⊢
      simp only [List.length_cons, List.length_append] at hn
      obtain ⟨n, rfl⟩ := Nat.exists_eq_add_of_le' (show 2 ≤ n by omega)
      rw [items?_lineEnd, items?_itemText hitem, hlater n (by omega)]
      rfl
    · have htext : restText (item :: items) = itemText item ++ restText items := by
        simp [restText, hheader]
      rw [htext] at hn ⊢
      rw [List.length_append] at hn
      obtain ⟨n, rfl⟩ := Nat.exists_eq_add_of_le' (show 1 ≤ n by omega)
      rw [items?_itemText hitem, hlater n (by omega)]
      rfl

theorem dropMark_itemText {item : Item} (hitem : item.Plain) (rest : Text) :
    dropMark (itemText item ++ rest) = itemText item ++ rest := by
  have hhead : ∃ c u, itemText item = c :: u ∧ c ≠ '\ufeff' := by
    cases hitem with
    | @header path isElement =>
      cases isElement with
      | true => exact ⟨'[', _, rfl, by decide⟩
      | false => exact ⟨'[', _, rfl, by decide⟩
    | @pair path v hne =>
      obtain ⟨c, u, h, hc⟩ := pathText_eq_cons hne
      rw [itemText, h]
      exact ⟨c, _, rfl, hc.ne (by decide)⟩
  obtain ⟨c, u, h, hc⟩ := hhead
  rw [h]
  unfold dropMark
  split
  case h_1 he => exact (hc (List.cons_eq_cons.mp he).1).elim
  case h_2 => rfl

/-- The items of a document are found again from its text. -/
theorem readItems?_write {items : List Item} (hitems : ∀ item ∈ items, item.Plain) :
    readItems? (write items) = some items := by
  cases items with
  | nil => rfl
  | cons item items =>
    have hitem := hitems item List.mem_cons_self
    have hlength : 0 < (itemText item).length := List.length_pos_iff.mpr (itemText_ne_nil item)
    have hlater := items?_restText (fun i hi => hitems i (List.mem_cons_of_mem item hi))
      (n := (itemText item ++ restText items).length) (by rw [List.length_append]; omega)
    rw [write, readItems?, dropMark_itemText hitem]
    change items? ((itemText item ++ restText items).length + 1) _ = _
    rw [items?_itemText hitem, hlater]
    rfl

end CommentTags.Toml
