import CommentTags.Proofs.Keyed
import CommentTags.Proofs.View.Enumeration
import CommentTags.Proofs.Workspace.Change

/-!
Bursts of changes. Each change looks at the entry of its own file alone and changes no other, so
the changes of a burst can come in any order, and a second time they change nothing.
-/
namespace CommentTags

namespace Workspace

variable (w : Workspace) (t : FileTree) (candidates : List Path) (s : Scanner)

instance (change : FileChange) : Decidable (IsDropped t candidates change) :=
  inferInstanceAs (Decidable (_ ∨ _ ∨ _))

/-- What a change leaves of its file, of which `old` was kept. -/
def left? (change : FileChange) (old : Option (List FoundTag)) : Option (List FoundTag) :=
  if IsDropped t candidates change then none
  else
    match w.openFile t change.path with
    | .ok d => (d.source.kept? s.languages s.tags).or old
    | .error _ => none

theorem apply_get? (change : FileChange) (id : DocumentId) :
    (w.apply t candidates s change).scanner.cache.entries.get? id =
      if id = change.path then w.left? t candidates s change (s.cache.entries.get? id)
      else s.cache.entries.get? id := by
  by_cases hd : IsDropped t candidates change
  · rw [w.apply_of_dropped s hd, left?, if_pos hd]
  · rw [left?, if_neg hd]
    exact w.apply_of_not_dropped s hd id

/-- Nothing is left of a file that is dropped, so nothing is left the second time; and what a scan
leaves it leaves again. -/
theorem left?_left? (change : FileChange) (old : Option (List FoundTag)) :
    w.left? t candidates s change (w.left? t candidates s change old) =
      w.left? t candidates s change old := by
  rw [left?, left?]
  split
  · rfl
  · cases w.openFile t change.path with
    | error f => rfl
    | ok d =>
      dsimp only
      cases d.source.kept? s.languages s.tags <;> rfl

variable {t candidates s}

theorem apply_tags (change : FileChange) :
    (w.apply t candidates s change).scanner.tags = s.tags := by
  rw [apply]
  dsimp only
  split
  · split <;> rfl
  · cases w.openFile t change.path with
    | error f => rfl
    | ok d => exact s.scan_tags d.source

theorem apply_languages (change : FileChange) :
    (w.apply t candidates s change).scanner.languages = s.languages := by
  rw [apply]
  dsimp only
  split
  · split <;> rfl
  · cases w.openFile t change.path with
    | error f => rfl
    | ok d => exact s.scan_languages d.source

theorem apply_answer (change : FileChange) :
    (w.apply t candidates s change).answer =
      (!decide (IsDropped t candidates change) ||
        (s.cache.entries.get? change.path).isSome) := by
  have hgone : (decide (change.kind = .deleted) || !t.isFile change.path ||
      !candidates.any (Path.same change.path)) = decide (IsDropped t candidates change) := by
    rw [Bool.eq_iff_iff]
    simp [IsDropped, or_assoc]
  rw [apply]
  dsimp only
  rw [hgone]
  split
  · rename_i hd
    rw [hd]
    change (ite (s.cache.contains change.path = true) _ _ : Scanner.Outcome Bool).answer =
      s.cache.contains change.path
    cases s.cache.contains change.path <;> rfl
  · rename_i hd
    rw [Bool.not_eq_true] at hd
    rw [hd]
    cases w.openFile t change.path <;> rfl

variable {changes others : List FileChange}

theorem applyAll_get?_of_not_mem {id : DocumentId} (h : id ∉ changes.map FileChange.path) :
    (w.applyAll t candidates s changes).scanner.cache.entries.get? id =
      s.cache.entries.get? id := by
  induction changes generalizing s with
  | nil => rfl
  | cons change changes ih =>
    obtain ⟨hne, hrest⟩ := List.ne_and_not_mem_of_not_mem_cons h
    have hfirst := w.apply_get? t candidates s change id
    rw [if_neg hne] at hfirst
    exact (ih hrest).trans hfirst

theorem left?_apply (first change : FileChange) (old : Option (List FoundTag)) :
    w.left? t candidates (w.apply t candidates s first).scanner change old =
      w.left? t candidates s change old := by
  rw [left?, left?, apply_tags, apply_languages]

/-- What a burst leaves of a file is what the file's own change leaves of it. -/
theorem applyAll_get?_of_mem (hd : (changes.map FileChange.path).Nodup) {change : FileChange}
    (h : change ∈ changes) :
    (w.applyAll t candidates s changes).scanner.cache.entries.get? change.path =
      w.left? t candidates s change (s.cache.entries.get? change.path) := by
  induction changes generalizing s with
  | nil => cases h
  | cons first changes ih =>
    obtain ⟨hfirst, hrest⟩ := List.nodup_cons.mp hd
    have hstep := w.apply_get? t candidates s first change.path
    rcases List.mem_cons.mp h with rfl | hmem
    · rw [if_pos rfl] at hstep
      exact (w.applyAll_get?_of_not_mem hfirst).trans hstep
    · have hne : change.path ≠ first.path := fun he =>
        hfirst (he ▸ List.mem_map_of_mem hmem)
      rw [if_neg hne] at hstep
      have hthen := ih (s := (w.apply t candidates s first).scanner) hrest hmem
      rw [hstep, left?_apply] at hthen
      exact hthen

/-- Whether a change does anything is decided before the burst. -/
theorem applyAll_answer (hd : (changes.map FileChange.path).Nodup) :
    (w.applyAll t candidates s changes).answer =
      changes.any fun change => (w.apply t candidates s change).answer := by
  induction changes generalizing s with
  | nil => rfl
  | cons first changes ih =>
    obtain ⟨hfirst, hrest⟩ := List.nodup_cons.mp hd
    have hsame : ∀ change ∈ changes,
        (w.apply t candidates (w.apply t candidates s first).scanner change).answer =
          (w.apply t candidates s change).answer := by
      intro change hmem
      have hne : change.path ≠ first.path := fun he =>
        hfirst (he ▸ List.mem_map_of_mem hmem)
      have hstep := w.apply_get? t candidates s first change.path
      rw [if_neg hne] at hstep
      rw [apply_answer, apply_answer, hstep]
    have hthen := ih (s := (w.apply t candidates s first).scanner) hrest
    have hany : (changes.any fun change =>
        (w.apply t candidates (w.apply t candidates s first).scanner change).answer) =
          changes.any fun change => (w.apply t candidates s change).answer := by
      rw [Bool.eq_iff_iff, List.any_eq_true, List.any_eq_true]
      constructor
      · rintro ⟨change, hmem, ha⟩
        exact ⟨change, hmem, hsame change hmem ▸ ha⟩
      · rintro ⟨change, hmem, ha⟩
        exact ⟨change, hmem, (hsame change hmem).trans ha⟩
    rw [List.any_cons, ← hany, ← hthen]
    rfl

theorem applyAll_tags : (w.applyAll t candidates s changes).scanner.tags = s.tags := by
  induction changes generalizing s with
  | nil => rfl
  | cons first changes ih => exact ih.trans (w.apply_tags first)

theorem applyAll_languages :
    (w.applyAll t candidates s changes).scanner.languages = s.languages := by
  induction changes generalizing s with
  | nil => rfl
  | cons first changes ih => exact ih.trans (w.apply_languages first)

/-- What is left of a file depends on the burst as a set of changes. -/
theorem applyAll_get?_of_perm (h : changes.Perm others)
    (hd : (changes.map FileChange.path).Nodup) (id : DocumentId) :
    (w.applyAll t candidates s changes).scanner.cache.entries.get? id =
      (w.applyAll t candidates s others).scanner.cache.entries.get? id := by
  have hpaths : (changes.map FileChange.path).Perm (others.map FileChange.path) := h.map _
  by_cases hid : id ∈ changes.map FileChange.path
  · obtain ⟨change, hmem, rfl⟩ := List.mem_map.mp hid
    rw [w.applyAll_get?_of_mem hd hmem,
      w.applyAll_get?_of_mem (hpaths.nodup_iff.mp hd) (h.mem_iff.mp hmem)]
  · rw [w.applyAll_get?_of_not_mem hid,
      w.applyAll_get?_of_not_mem fun hmem => hid (hpaths.mem_iff.mpr hmem)]

theorem applyAll_get?_again (hd : (changes.map FileChange.path).Nodup) (id : DocumentId) :
    let after := (w.applyAll t candidates s changes).scanner
    (w.applyAll t candidates after changes).scanner.cache.entries.get? id =
      after.cache.entries.get? id := by
  intro after
  by_cases hid : id ∈ changes.map FileChange.path
  · obtain ⟨change, hmem, rfl⟩ := List.mem_map.mp hid
    have hleft : ∀ old, w.left? t candidates after change old =
        w.left? t candidates s change old := by
      intro old
      rw [left?, left?, applyAll_tags, applyAll_languages]
    have honce : after.cache.entries.get? change.path = _ := w.applyAll_get?_of_mem hd hmem
    rw [w.applyAll_get?_of_mem hd hmem, hleft, honce, left?_left?]
  · exact w.applyAll_get?_of_not_mem hid

/-- In whatever order the changes of a burst come, they leave the same cache and together do
anything or nothing; once more, in any order, they leave the cache as it is. -/
theorem applyAll_perm (h : changes.Perm others) (hd : (changes.map FileChange.path).Nodup) :
    let after := w.applyAll t candidates s changes
    after.scanner.cache.Reorders (w.applyAll t candidates s others).scanner.cache ∧
      after.answer = (w.applyAll t candidates s others).answer ∧
      (w.applyAll t candidates after.scanner others).scanner.cache.Reorders
        after.scanner.cache := by
  intro after
  have hd' : (others.map FileChange.path).Nodup := (h.map _).nodup_iff.mp hd
  refine ⟨?_, ?_, ?_⟩
  · apply Keyed.entries_perm
    exact w.applyAll_get?_of_perm h hd
  · rw [w.applyAll_answer hd, w.applyAll_answer hd', h.any_eq]
  · apply Keyed.entries_perm
    intro id
    rw [← w.applyAll_get?_of_perm h hd, w.applyAll_get?_again hd]

/-- A file that keeps its entry, and one that was never there. -/
theorem applyAll_nulHost :
    let burst : List FileChange := [⟨.deleted, "/b.py"⟩, ⟨.modified, "/a.py"⟩]
    let swapped : List FileChange := [⟨.modified, "/a.py"⟩, ⟨.deleted, "/b.py"⟩]
    let apply := rootFolder.applyAll nulHost.files ["/a.py"]
    let after := apply formerScanner burst
    burst.Perm swapped ∧ (burst.map FileChange.path).Nodup ∧
      after.scanner.cache.Reorders (apply formerScanner swapped).scanner.cache ∧
      after.answer = (apply formerScanner swapped).answer ∧
      (apply after.scanner swapped).scanner.cache.Reorders after.scanner.cache :=
  ⟨.swap _ _ _, by decide, rootFolder.applyAll_perm (.swap _ _ _) (by decide)⟩

end Workspace

end CommentTags
