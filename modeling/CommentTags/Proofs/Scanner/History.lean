import Mathlib.Data.List.Basic
import Mathlib.Data.List.Induction
import CommentTags.Proofs.Scanner.Run

/-!
The cache as its history determines it: an entry is there exactly if a scan of its document
completed and nothing dropped it since, and it is what the latest such scan found.
-/
namespace CommentTags

/-- The tags that the last configuration made active. -/
def activeTags (steps : List Step) : TagSet :=
  steps.foldl (fun set a => match a with
    | .configure tags => (TagSet.compile tags).1
    | _ => set) (TagSet.compile Tag.standard).1

namespace Step

/-- A scan of the document that completes. -/
def Scans (languages : Languages) (id : DocumentId) : Step → Prop
  | scan d => d.id = id ∧ d.completes languages = true
  | _ => False

/-- The entry of the document is dropped, alone or with all others. -/
def Drops (id : DocumentId) : Step → Prop
  | invalidate gone => gone = none ∨ gone = some id
  | _ => False

def Concerns (languages : Languages) (id : DocumentId) (a : Step) : Prop :=
  a.Scans languages id ∨ a.Drops id

end Step

namespace Scanner

variable (s : Scanner)

/-- Among the steps is a complete scan of the document, which found these tags, and no later step
concerns its entry. -/
def IsLatest (steps : List Step) (id : DocumentId) (found : List FoundTag) : Prop :=
  ∃ earlier d later, steps = earlier ++ .scan d :: later ∧ d.id = id ∧
    d.completes s.languages = true ∧ (∀ a ∈ later, ¬a.Concerns s.languages id) ∧
    found = ((s.after earlier).scan d).answer

theorem take_entry_of_scans {a : Step} {id : DocumentId} (h : a.Scans s.languages id) :
    ∃ d, a = .scan d ∧
      (s.take a).scanner.cache.entries.get? id = some (s.scan d).answer := by
  cases a with
  | scan d =>
    obtain ⟨hid, hc⟩ := h
    refine ⟨d, rfl, ?_⟩
    change (s.scan d).scanner.cache.entries.get? id = _
    rw [scan_entry, scan_answer, if_pos hid, Source.kept?, if_pos hc, Option.some_or]
  | configure tags => exact h.elim
  | invalidate gone => exact h.elim

theorem take_entry_of_drops {a : Step} {id : DocumentId} (h : a.Drops id) :
    (s.take a).scanner.cache.entries.get? id = none := by
  cases a with
  | invalidate gone => exact (s.invalidate_entry gone id).trans (if_pos h)
  | configure tags => exact h.elim
  | scan d => exact h.elim

theorem take_entry_of_not_concerns {a : Step} {id : DocumentId}
    (h : ¬a.Concerns s.languages id) :
    (s.take a).scanner.cache.entries.get? id = s.cache.entries.get? id := by
  cases a with
  | configure tags => rfl
  | scan d =>
    change (s.scan d).scanner.cache.entries.get? id = _
    rw [scan_entry]
    by_cases hid : d.id = id
    · have hc : ¬d.completes s.languages = true := fun hc => h (.inl ⟨hid, hc⟩)
      rw [if_pos hid, Source.kept?, if_neg hc, Option.none_or]
    · rw [if_neg hid]
  | invalidate gone =>
    exact (s.invalidate_entry gone id).trans (if_neg fun hd => h (.inr hd))

/-- An entry stays, if perhaps with other tags, as long as nothing drops it. -/
theorem take_entry_isSome {a : Step} {id : DocumentId} (h : ¬a.Drops id)
    (hs : (s.cache.entries.get? id).isSome) :
    ((s.take a).scanner.cache.entries.get? id).isSome := by
  by_cases ha : a.Scans s.languages id
  · obtain ⟨d, -, he⟩ := s.take_entry_of_scans ha
    rw [he]
    rfl
  · rwa [s.take_entry_of_not_concerns (not_or.mpr ⟨ha, h⟩)]

theorem after_entry_isSome {steps : List Step} {id : DocumentId}
    (h : ∀ a ∈ steps, ¬a.Drops id) (hs : (s.cache.entries.get? id).isSome) :
    ((s.after steps).cache.entries.get? id).isSome := by
  induction steps generalizing s with
  | nil => exact hs
  | cons a rest ih =>
    exact ih (s.take a).scanner (fun b hb => h b (List.mem_cons_of_mem a hb))
      (s.take_entry_isSome (h a List.mem_cons_self) hs)

variable {s} {steps : List Step} {a : Step} {id : DocumentId} {found : List FoundTag}

theorem isLatest_append_of_concerns (h : a.Concerns s.languages id)
    (hf : s.IsLatest (steps ++ [a]) id found) :
    ∃ d, a = .scan d ∧ found = ((s.after steps).scan d).answer := by
  obtain ⟨earlier, d, later, he, -, -, hlater, hf⟩ := hf
  -- If a later step were left over, the last of them would be `a`, which concerns the entry.
  rcases List.eq_nil_or_concat' later with rfl | ⟨init, b, rfl⟩
  · obtain ⟨rfl, ha⟩ := List.append_inj' he rfl
    exact ⟨d, List.head_eq_of_cons_eq ha, hf⟩
  · rw [← List.cons_append, ← List.append_assoc] at he
    obtain ⟨-, ha⟩ := List.append_inj' he rfl
    have hb : a = b := List.head_eq_of_cons_eq ha
    exact (hlater b (by simp) (hb ▸ h)).elim

theorem isLatest_append_scan {d : Source} (h : Step.Scans s.languages id (.scan d)) :
    s.IsLatest (steps ++ [.scan d]) id ((s.after steps).scan d).answer :=
  ⟨steps, d, [], rfl, h.1, h.2, by simp, rfl⟩

theorem isLatest_append_of_not_concerns (h : ¬a.Concerns s.languages id) :
    s.IsLatest (steps ++ [a]) id found ↔ s.IsLatest steps id found := by
  constructor
  · rintro ⟨earlier, d, later, he, hid, hc, hlater, hf⟩
    rcases List.eq_nil_or_concat' later with rfl | ⟨init, b, rfl⟩
    · obtain ⟨-, ha⟩ := List.append_inj' he rfl
      have hd : a = .scan d := List.head_eq_of_cons_eq ha
      exact (h (hd ▸ .inl ⟨hid, hc⟩)).elim
    · rw [← List.cons_append, ← List.append_assoc] at he
      obtain ⟨hs, -⟩ := List.append_inj' he rfl
      exact ⟨earlier, d, init, hs, hid, hc, fun b hb => hlater b (by simp [hb]), hf⟩
  · rintro ⟨earlier, d, later, rfl, hid, hc, hlater, hf⟩
    refine ⟨earlier, d, later ++ [a], by simp, hid, hc, ?_, hf⟩
    intro b hb
    rcases List.mem_append.mp hb with hb | hb
    · exact hlater b hb
    · rwa [List.mem_singleton.mp hb]

theorem after_concat (s : Scanner) (steps : List Step) (a : Step) :
    s.after (steps ++ [a]) = ((s.after steps).take a).scanner :=
  s.after_append steps [a]

/-- What the steps leave in a cache that was empty before. -/
theorem after_entry (hs : s.cache = .empty) :
    (s.after steps).cache.entries.get? id = some found ↔ s.IsLatest steps id found := by
  induction steps using List.reverseRecOn with
  | nil =>
    constructor
    · intro h
      rw [after, List.foldl_nil, hs] at h
      cases h
    · rintro ⟨earlier, d, later, he, -⟩
      simp at he
  | append_singleton steps a ih =>
    rw [after_concat]
    have hl : (s.after steps).languages = s.languages := s.after_languages steps
    by_cases hc : a.Scans s.languages id
    · obtain ⟨d, rfl, he⟩ := take_entry_of_scans (s.after steps) (hl ▸ hc)
      rw [he]
      constructor
      · rintro h
        cases h
        exact isLatest_append_scan hc
      · intro h
        obtain ⟨e, hd, rfl⟩ := isLatest_append_of_concerns (.inl hc) h
        cases hd
        rfl
    by_cases hd : a.Drops id
    · rw [take_entry_of_drops _ hd]
      constructor
      · rintro ⟨⟩
      · intro h
        obtain ⟨d, rfl, -⟩ := isLatest_append_of_concerns (.inr hd) h
        exact hd.elim
    · have hn : ¬a.Concerns s.languages id := not_or.mpr ⟨hc, hd⟩
      rw [isLatest_append_of_not_concerns hn, take_entry_of_not_concerns _ (hl ▸ hn), ih]

theorem after_tags (languages : Languages) (steps : List Step) :
    ((ofLanguages languages).after steps).tags = activeTags steps := by
  induction steps using List.reverseRecOn with
  | nil => rfl
  | append_singleton steps a ih =>
    rw [after_concat, activeTags, List.foldl_append]
    cases a with
    | configure tags => rfl
    | scan d => exact (scan_tags _ d).trans ih
    | invalidate gone => exact ih

theorem scan_answer_after (languages : Languages) (earlier : List Step) (d : Source) :
    (((ofLanguages languages).after earlier).scan d).answer =
      d.found languages (activeTags earlier) := by
  rw [scan_answer, after_tags, after_languages]
  rfl

theorem after_contains (hs : s.cache = .empty) :
    (s.after steps).cache.contains id = true ↔
      ∃ earlier a later, steps = earlier ++ a :: later ∧ a.Scans s.languages id ∧
        ∀ b ∈ later, ¬b.Drops id := by
  rw [Cache.contains, Keyed.contains]
  constructor
  · intro h
    obtain ⟨found, hf⟩ := Option.isSome_iff_exists.mp h
    obtain ⟨earlier, d, later, he, hid, hc, hlater, -⟩ := (after_entry hs).mp hf
    exact ⟨earlier, .scan d, later, he, ⟨hid, hc⟩, fun b hb hd => hlater b hb (.inr hd)⟩
  · rintro ⟨earlier, a, later, rfl, ha, hlater⟩
    have hl : (s.after earlier).languages = s.languages := s.after_languages earlier
    obtain ⟨d, -, he⟩ := take_entry_of_scans (s.after earlier) (hl ▸ ha)
    rw [after_append]
    exact after_entry_isSome ((s.after earlier).take a).scanner hlater (by rw [he]; rfl)

/-- The cache after any run on a new scanner. A document has an entry exactly if a scan of it
completed and no step after that dropped it. The entry is what the latest such scan returned,
found with the tags that were active then. All its tags carry the identity of the document. -/
theorem run_cache (languages : Languages) (actions : List Action) (id : DocumentId) :
    let start := ofLanguages languages
    let cache := (start.run actions).scanner.cache
    let steps := actions.flatMap Action.steps
    (cache.contains id = true ↔
      ∃ earlier a later, steps = earlier ++ a :: later ∧ a.Scans languages id ∧
        ∀ b ∈ later, ¬b.Drops id) ∧
    ∀ found, cache.entries.get? id = some found →
      (∃ earlier d later, steps = earlier ++ .scan d :: later ∧
        Step.Scans languages id (.scan d) ∧ (∀ b ∈ later, ¬b.Concerns languages id) ∧
        found = ((start.after earlier).scan d).answer ∧
        found = d.found languages (activeTags earlier)) ∧
      ∀ t ∈ found, t.document = id := by
  intro start cache steps
  have hcache : cache = (start.after steps).cache := by
    exact congrArg Scanner.cache (start.run_scanner actions)
  rw [hcache]
  refine ⟨after_contains rfl, ?_⟩
  intro found hf
  obtain ⟨earlier, d, later, hsteps, hid, hc, hlater, hanswer⟩ := (after_entry rfl).mp hf
  have hfound : found = d.found languages (activeTags earlier) :=
    hanswer.trans (scan_answer_after languages earlier d)
  refine ⟨⟨earlier, d, later, hsteps, ⟨hid, hc⟩, hlater, hanswer, hfound⟩, ?_⟩
  intro t ht
  rw [hfound] at ht
  exact (d.found_document languages (activeTags earlier) ht).trans hid

end Scanner

end CommentTags
