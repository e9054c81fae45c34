import CommentTags.Proofs.Buffer.Indexes
import CommentTags.Proofs.Buffer.LineEdit

/-!
Edits as the exchange of one stretch of a text. Each edit comes down to a stretch, given by the
indexes of its two ends, and the text that is put in its place. Made in place, step by step, an
edit either fails before its first change or is made to the end.
-/
namespace CommentTags

/-- The edits that texts and documents offer. -/
inductive Edit where
  | insert (i : Nat) (t : Text)
  | insertAt (p : Position) (t : Text)
  | delete (i j : Nat)
  | deleteBetween (start stop : Position)
  | replace (i j : Nat) (t : Text)
  | replaceLine (i : Nat) (t : Text)
deriving DecidableEq, Repr

/-- Steps that change a text in place: what was changed before a step failed stays changed. -/
abbrev Editing (α : Type) := ExceptT BufferError (StateM Buffer) α

/-- The answer of an edit together with what it leaves behind, which is what was there before it
where it fails. -/
def settle {σ α : Type} (before : σ) : Except BufferError (α × σ) → Except BufferError α × σ
  | .ok (answer, edited) => (.ok answer, edited)
  | .error e => (.error e, before)

namespace Editing

variable {α β : Type}

/-- One step, which fails, if at all, before it changes anything. -/
def step (f : Buffer → Except BufferError (α × Buffer)) : Editing α :=
  fun b => settle b (f b)

/-- A step that looks at the text and leaves it alone. -/
def look (f : Buffer → Except BufferError α) : Editing α :=
  step fun b => (f b).map (·, b)

variable {f : Buffer → Except BufferError (α × Buffer)} {g : α → Editing β} {b edited : Buffer}
  {a : α} {e : BufferError}

theorem step_bind_of_ok (h : f b = .ok (a, edited)) : (step f >>= g) b = g a edited := by
  change ExceptT.bindCont g (settle b (f b)).1 (settle b (f b)).2 = _
  rw [h]
  rfl

theorem step_bind_of_error (h : f b = .error e) : (step f >>= g) b = (.error e, b) := by
  change ExceptT.bindCont g (settle b (f b)).1 (settle b (f b)).2 = _
  rw [h]
  rfl

/-- A look at the text and then a step are one step. -/
theorem look_bind_step (f : Buffer → Except BufferError α)
    (g : α → Buffer → Except BufferError (β × Buffer)) :
    (look f >>= fun a => step (g a)) = step fun b => f b >>= fun a => g a b := by
  funext b
  change _ = settle b (f b >>= fun a => g a b)
  cases h : f b with
  | error e =>
    have hlook : (f b).map (·, b) = .error e := by rw [h]; rfl
    exact step_bind_of_error hlook
  | ok a =>
    have hlook : (f b).map (·, b) = .ok (a, b) := by rw [h]; rfl
    exact step_bind_of_ok hlook

/-- Nothing is removed. -/
def insert (i : Nat) (t : Text) : Editing Text :=
  step fun b => (b.insert i t).map ([], ·)

def delete (i j : Nat) : Editing Text :=
  step fun b => b.delete i j

def replace (i j : Nat) (t : Text) : Editing Text := do
  let removed ← delete i j
  let _ ← insert i t
  return removed

end Editing

namespace Edit

/-- The edit as it is made in place. -/
def inPlace : Edit → Editing Text
  | insert i t => Editing.insert i t
  | insertAt p t => do
    let i ← Editing.look (·.index p)
    Editing.insert i t
  | delete i j => Editing.delete i j
  | deleteBetween start stop => do
    let i ← Editing.look (·.index start)
    let j ← Editing.look (·.index stop)
    Editing.delete i j
  | replace i j t => Editing.replace i j t
  | replaceLine k t => do
    let start ← Editing.look (·.index ⟨k, 0⟩)
    let old ← Editing.look (·.lineText k)
    Editing.replace start (start + old.length) t

/-- What the edit removes, and the edited text. -/
def apply (b : Buffer) : Edit → Except BufferError (Text × Buffer)
  | insert i t => (b.insert i t).map ([], ·)
  | insertAt p t => (b.insertAt p t).map ([], ·)
  | delete i j => b.delete i j
  | deleteBetween start stop => do b.delete (← b.index start) (← b.index stop)
  | replace i j t => b.replace i j t
  | replaceLine k t => b.replaceLine k t

/-- What comes in the place of what is removed. -/
def text : Edit → Text
  | insert _ t | insertAt _ t | replace _ _ t | replaceLine _ t => t
  | delete _ _ | deleteBetween _ _ => []

/-- The two ends of the stretch that is exchanged, as the edit gives them. -/
def range (b : Buffer) : Edit → Except BufferError (Nat × Nat)
  | insert i _ => .ok (i, i)
  | insertAt p _ => do
    let i ← b.index p
    return (i, i)
  | delete i j | replace i j _ => .ok (i, j)
  | deleteBetween start stop => do
    let i ← b.index start
    let j ← b.index stop
    return (i, j)
  | replaceLine k _ => do
    let old ← b.lineText k
    return (b.lineStart k, b.lineStart k + old.length)

end Edit

namespace Buffer

/-- What stands from `i` up to `j`, and the text with `t` in its place; the two must be in order
and lie in the text. -/
def exchange (b : Buffer) (i j : Nat) (t : Text) : Except BufferError (Text × Buffer) :=
  if i ≤ j ∧ j ≤ b.size then .ok (b.slice i j, b.splice i j t) else .error (.invalidIndex j)

variable {b rest edited : Buffer} {i j k : Nat} {t removed : Text} {l : Line}

theorem exchange_eq_ok (h : b.exchange i j t = .ok (removed, edited)) :
    (i ≤ j ∧ j ≤ b.size) ∧ removed = b.slice i j ∧ edited = b.splice i j t := by
  rw [exchange] at h
  split at h
  case isTrue hle =>
    cases h
    exact ⟨hle, rfl, rfl⟩
  case isFalse => cases h

theorem insert_eq_exchange (b : Buffer) (i : Nat) (t : Text) :
    (b.insert i t).map ([], ·) = b.exchange i i t := by
  rw [insert, exchange, slice, Nat.sub_self, List.take_zero]
  by_cases hi : i ≤ b.size
  · rw [if_pos hi, if_pos ⟨Nat.le_refl i, hi⟩]
    rfl
  · rw [if_neg hi, if_neg fun h => hi h.2]
    rfl

/-- A text around one of its stretches. -/
theorem chars_eq_around_stretch (h : i ≤ j) :
    b.chars = b.chars.take i ++ (b.slice i j ++ b.chars.drop j) := by
  have hdrop : b.chars.drop j = (b.chars.drop i).drop (j - i) := by
    rw [List.drop_drop, Nat.add_sub_cancel' h]
  rw [slice, hdrop, List.take_append_drop, List.take_append_drop]

theorem splice_eq (b : Buffer) (i j : Nat) (t : Text) :
    b.splice i j t = ⟨b.chars.take i ++ (t ++ b.chars.drop j)⟩ := by
  rw [splice, List.append_assoc]

/-- After a deletion there is room for a text where something was removed. -/
theorem insert_of_delete (h : b.delete i j = .ok (removed, rest)) (t : Text) :
    rest.insert i t = .ok (b.splice i j t) := by
  obtain ⟨hle, -, rfl⟩ := exchange_eq_ok h
  have hlength : (b.chars.take i).length = i := List.length_take_of_le (hle.1.trans hle.2)
  have hinsert := insert_append (b.chars.take i) (b.chars.drop j) t
  rw [hlength] at hinsert
  rw [splice_eq, splice_eq]
  exact hinsert

theorem replace_eq_exchange (b : Buffer) (i j : Nat) (t : Text) :
    b.replace i j t = b.exchange i j t := by
  rw [replace]
  by_cases hle : i ≤ j ∧ j ≤ b.size
  · have hdelete : b.delete i j = .ok (b.slice i j, b.splice i j []) := if_pos hle
    rw [hdelete, exchange, if_pos hle]
    change (Buffer.insert _ i t >>= _) = _
    rw [insert_of_delete hdelete]
    rfl
  · rw [delete, exchange, if_neg hle, if_neg hle]
    rfl

/-- The text that was removed, put back in the place of the new one, gives the text of before. -/
theorem replace_of_replace (h : b.replace i j t = .ok (removed, edited)) :
    edited.replace i (i + t.length) removed = .ok (t, b) := by
  rw [replace_eq_exchange] at h
  obtain ⟨hle, rfl, rfl⟩ := exchange_eq_ok h
  have hlength : (b.chars.take i).length = i := List.length_take_of_le (hle.1.trans hle.2)
  have hback := replace_append (b.chars.take i) t (b.chars.drop j) (b.slice i j)
  rw [hlength, ← chars_eq_around_stretch hle.1] at hback
  rw [splice_eq]
  exact hback

theorem replaceLine_eq_exchange (h : b.line? k = some l) (t : Text) :
    b.replaceLine k t = b.exchange (b.lineStart k) (b.lineStart k + l.text.length) t := by
  rw [← replace_eq_exchange, replaceLine, index_of_le h (Nat.zero_le _), lineText_eq h]
  rfl

theorem replaceLine_of_none (h : b.line? k = none) (t : Text) :
    b.replaceLine k t = .error (.positionOutOfBounds ⟨k, 0⟩) := by
  rw [replaceLine, index]
  simp only [h]
  rfl

theorem replaceLine_eq_error_iff :
    (∃ e, b.replaceLine k t = .error e) ↔ b.lineCount ≤ k := by
  cases h : b.line? k with
  | none =>
    rw [replaceLine_of_none h]
    exact iff_of_true ⟨_, rfl⟩ (List.getElem?_eq_none_iff.mp h)
  | some l =>
    rw [replaceLine_eq h]
    exact iff_of_false (fun ⟨e, he⟩ => nomatch he)
      (Nat.not_le.mpr (exists_line?_iff.mp ⟨l, h⟩))

end Buffer

namespace Edit

variable {b : Buffer}

/-- However an edit names its stretch, it exchanges this stretch or fails. -/
theorem apply_eq (e : Edit) (b : Buffer) :
    e.apply b = e.range b >>= fun s => b.exchange s.1 s.2 e.text := by
  cases e with
  | insert i t => exact b.insert_eq_exchange i t
  | insertAt p t =>
    rw [apply, Buffer.insertAt, range]
    cases b.index p with
    | error e => rfl
    | ok i => exact b.insert_eq_exchange i t
  | delete i j => rfl
  | deleteBetween start stop =>
    rw [apply, range]
    cases b.index start with
    | error e => rfl
    | ok i =>
      cases b.index stop with
      | error e => rfl
      | ok j => rfl
  | replace i j t => exact b.replace_eq_exchange i j t
  | replaceLine k t =>
    rw [apply, range]
    cases h : b.line? k with
    | none =>
      rw [Buffer.replaceLine_of_none h, Buffer.lineText, Buffer.line, h]
      rfl
    | some l =>
      rw [Buffer.replaceLine_eq_exchange h, Buffer.lineText_eq h]
      rfl

/-- A replacement in place is one step too: when its insertion comes, it cannot fail. -/
theorem replace_eq_step (i j : Nat) (t : Text) :
    Editing.replace i j t = Editing.step fun b => b.replace i j t := by
  funext b
  change _ = settle b (b.delete i j >>= fun r => r.2.insert i t >>= fun edited =>
    pure (r.1, edited))
  cases h : b.delete i j with
  | error e => exact Editing.step_bind_of_error h
  | ok r =>
    obtain ⟨removed, rest⟩ := r
    have hinsert := Buffer.insert_of_delete h t
    have hanswer : (rest.insert i t).map (([] : Text), ·) = .ok ([], b.splice i j t) := by
      rw [hinsert]
      rfl
    calc Editing.replace i j t b
        = (Editing.insert i t >>= fun _ => pure removed) rest := Editing.step_bind_of_ok h
      _ = (.ok removed, b.splice i j t) := Editing.step_bind_of_ok hanswer
      _ = settle b (rest.insert i t >>= fun edited => pure (removed, edited)) := by
        rw [hinsert]
        rfl

/-- Nothing is changed before the last step that may fail: made in place, the edit is one step. -/
theorem inPlace_eq_step (e : Edit) : e.inPlace = Editing.step fun b => e.apply b := by
  cases e with
  | insert i t => rfl
  | insertAt p t =>
    change (Editing.look (·.index p) >>= fun i =>
      Editing.step fun b => (b.insert i t).map ([], ·)) = _
    rw [Editing.look_bind_step]
    refine congrArg Editing.step (funext fun b => ?_)
    rw [apply, Buffer.insertAt]
    cases b.index p with
    | error e => rfl
    | ok i => rfl
  | delete i j => rfl
  | deleteBetween start stop =>
    change (Editing.look (·.index start) >>= fun i => Editing.look (·.index stop) >>= fun j =>
      Editing.step fun b => b.delete i j) = _
    simp only [Editing.look_bind_step]
    rfl
  | replace i j t => exact replace_eq_step i j t
  | replaceLine k t =>
    change (Editing.look (·.index ⟨k, 0⟩) >>= fun start =>
      Editing.look (·.lineText k) >>= fun old =>
        Editing.replace start (start + old.length) t) = _
    simp only [replace_eq_step, Editing.look_bind_step]
    rfl

/-- The edit as a document makes it on its text in place. -/
def onDocument (e : Edit) : ExceptT BufferError (StateM Document) Text := fun d =>
  let outcome := e.inPlace.run.run d.buffer
  (outcome.1, d.withBuffer outcome.2)

theorem onDocument_eq (e : Edit) (d : Document) :
    e.onDocument.run.run d =
      settle d ((e.apply d.buffer).map fun r => (r.1, d.withBuffer r.2)) := by
  have hrun : e.inPlace.run.run d.buffer = settle d.buffer (e.apply d.buffer) :=
    congrFun e.inPlace_eq_step d.buffer
  change ((e.inPlace.run.run d.buffer).1, d.withBuffer (e.inPlace.run.run d.buffer).2) = _
  rw [hrun]
  cases e.apply d.buffer with
  | error error => rfl
  | ok r => rfl

end Edit

namespace Document

variable (d : Document)

theorem insert_eq_apply (p : Position) (t : Text) :
    (d.insert p t).map (([] : Text), ·) =
      ((Edit.insertAt p t).apply d.buffer).map fun r => (r.1, d.withBuffer r.2) := by
  rw [insert, Edit.apply]
  cases d.buffer.insertAt p t with
  | error e => rfl
  | ok edited => rfl

theorem delete_eq_apply (start stop : Position) :
    d.delete start stop =
      ((Edit.deleteBetween start stop).apply d.buffer).map fun r => (r.1, d.withBuffer r.2) := by
  rw [delete, Edit.apply]
  cases d.buffer.index start with
  | error e => rfl
  | ok i =>
    cases d.buffer.index stop with
    | error e => rfl
    | ok j =>
      change (d.buffer.delete i j >>= _) = (d.buffer.delete i j).map _
      cases d.buffer.delete i j with
      | error e => rfl
      | ok r => rfl

theorem replaceLine_eq_apply (i : Nat) (t : Text) :
    d.replaceLine i t =
      ((Edit.replaceLine i t).apply d.buffer).map fun r => (r.1, d.withBuffer r.2) := by
  rw [replaceLine, Edit.apply]
  cases d.buffer.replaceLine i t with
  | error e => rfl
  | ok r => rfl

end Document

namespace Edit

/-- Every edit is made wholly or not at all. Made in place it gives the answer of the edit and,
where it fails, leaves the text or the document as it was; where it succeeds, the text is the one
with the new text exchanged for the stretch that the edit names, and the answer is what stood
there. In a replacement the insertion never fails after the deletion; the text of a line can be
exchanged whenever the line is there; and what a replacement removed, put back in the place of the
new text, gives the text of before. -/
theorem all_or_nothing :
    (∀ (e : Edit) (b : Buffer), e.inPlace.run.run b = settle b (e.apply b)) ∧
    (∀ (e : Edit) (b : Buffer), e.apply b = e.range b >>= fun (i, j) =>
      if i ≤ j ∧ j ≤ b.size then .ok (b.slice i j, b.splice i j e.text)
      else .error (.invalidIndex j)) ∧
    (∀ (d : Document) (p : Position) (t : Text),
      (insertAt p t).onDocument.run.run d = settle d ((d.insert p t).map ([], ·)) ∧
      (d.insert p t).map (([] : Text), ·) =
        ((insertAt p t).apply d.buffer).map fun r => (r.1, d.withBuffer r.2)) ∧
    (∀ (d : Document) (start stop : Position),
      (deleteBetween start stop).onDocument.run.run d = settle d (d.delete start stop) ∧
      d.delete start stop =
        ((deleteBetween start stop).apply d.buffer).map fun r => (r.1, d.withBuffer r.2)) ∧
    (∀ (d : Document) (k : Nat) (t : Text),
      (replaceLine k t).onDocument.run.run d = settle d (d.replaceLine k t) ∧
      d.replaceLine k t =
        ((replaceLine k t).apply d.buffer).map fun r => (r.1, d.withBuffer r.2)) ∧
    (∀ (b rest : Buffer) (i j : Nat) (t removed : Text),
      b.delete i j = .ok (removed, rest) → ∃ edited, rest.insert i t = .ok edited) ∧
    (∀ (b : Buffer) (k : Nat) (t : Text),
      (∃ e, b.replaceLine k t = .error e) ↔ b.lineCount ≤ k) ∧
    ∀ (b edited : Buffer) (i j : Nat) (t removed : Text),
      b.replace i j t = .ok (removed, edited) →
        edited.replace i (i + t.length) removed = .ok (t, b) := by
  refine ⟨fun e b => congrFun e.inPlace_eq_step b, fun e b => e.apply_eq b, fun d p t => ?_,
    fun d start stop => ?_, fun d k t => ?_, fun b rest i j t removed h => ?_,
    fun b k t => Buffer.replaceLine_eq_error_iff, fun b edited i j t removed h => ?_⟩
  · exact ⟨d.insert_eq_apply p t ▸ onDocument_eq _ d, d.insert_eq_apply p t⟩
  · exact ⟨d.delete_eq_apply start stop ▸ onDocument_eq _ d, d.delete_eq_apply start stop⟩
  · exact ⟨d.replaceLine_eq_apply k t ▸ onDocument_eq _ d, d.replaceLine_eq_apply k t⟩
  · exact ⟨_, Buffer.insert_of_delete h t⟩
  · exact Buffer.replace_of_replace h

/-- A line end between two letters gives way to two others, and comes back. -/
theorem all_or_nothing_lineEnd :
    let b := Buffer.ofText "é\r\nx".toList
    ∃ rest edited, b.delete 1 3 = .ok ("\r\n".toList, rest) ∧
      (∃ inserted, rest.insert 1 "ab".toList = .ok inserted) ∧
      b.replace 1 3 "ab".toList = .ok ("\r\n".toList, edited) ∧
      edited.replace 1 3 "\r\n".toList = .ok ("ab".toList, b) := by
  intro b
  have hdelete : b.delete 1 3 = .ok ("\r\n".toList, ⟨"éx".toList⟩) := rfl
  have hreplace : b.replace 1 3 "ab".toList = .ok ("\r\n".toList, ⟨"éabx".toList⟩) := rfl
  obtain ⟨-, -, -, -, -, hroom, -, hback⟩ := all_or_nothing
  exact ⟨_, _, hdelete, hroom b _ 1 3 "ab".toList _ hdelete, hreplace,
    hback b _ 1 3 "ab".toList _ hreplace⟩

end Edit

end CommentTags
