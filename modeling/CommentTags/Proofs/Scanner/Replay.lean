import CommentTags.Proofs.Scanner.Run

/-!
The cache as its events tell it. One who saw an empty cache and every event since knows which
documents have an entry, and how many tags each of them holds.
-/
namespace CommentTags

/-- What an event tells about the number of tags of each document. -/
def Event.applyTo (known : Keyed DocumentId Nat) : Event → Keyed DocumentId Nat
  | documentScanned id count => known.insert id count
  | cacheInvalidated id => known.erase id
  | cacheCleared => .empty
  | tagsConfigured .. => known
  | fileSkipped .. => known
  | batchFinished .. => known

def replay (known : Keyed DocumentId Nat) (events : List Event) : Keyed DocumentId Nat :=
  events.foldl Event.applyTo known

/-- The documents of the cache are known, each with the number of its tags, and no others. -/
def Cache.IsKnown (c : Cache) (known : Keyed DocumentId Nat) : Prop :=
  ∀ id, known.get? id = (c.entries.get? id).map List.length

theorem replay_append (known : Keyed DocumentId Nat) (events more : List Event) :
    replay known (events ++ more) = replay (replay known events) more :=
  List.foldl_append

/-- Events of skipped files say nothing about the cache. -/
theorem replay_skipped (known : Keyed DocumentId Nat) (files : List SkippedFile) :
    replay known (files.map SkippedFile.event) = known := by
  induction files with
  | nil => rfl
  | cons f files ih => exact ih

namespace Scanner

variable {s : Scanner} {known : Keyed DocumentId Nat}

theorem isKnown_keep (h : s.cache.IsKnown known) (id : DocumentId) (found : List FoundTag) :
    (s.keep id found).scanner.cache.IsKnown (replay known (s.keep id found).events) := by
  intro other
  change (known.insert id found.length).get? other =
    ((s.cache.entries.insert id found).get? other).map List.length
  rw [Keyed.get?_insert, Keyed.get?_insert]
  by_cases hid : other = id
  · rw [if_pos hid, if_pos hid, Option.map_some]
  · rw [if_neg hid, if_neg hid, h other]

theorem isKnown_scan (h : s.cache.IsKnown known) (d : Source) :
    (s.scan d).scanner.cache.IsKnown (replay known (s.scan d).events) := by
  rw [scan_eq]
  by_cases hc : d.completes s.languages = true
  · rw [if_pos hc]
    exact isKnown_keep h d.id _
  · rw [if_neg hc]
    exact h

theorem isKnown_invalidate (h : s.cache.IsKnown known) (gone : Option DocumentId) :
    (s.invalidate gone).scanner.cache.IsKnown (replay known (s.invalidate gone).events) := by
  intro other
  rw [invalidate_entry]
  cases gone with
  | none =>
    rw [if_pos (.inl rfl)]
    rfl
  | some id =>
    change (known.erase id).get? other = _
    rw [Keyed.get?_erase]
    by_cases hid : other = id
    · rw [if_pos hid, if_pos (.inr (congrArg some hid.symm))]
      rfl
    · have hother : ¬(some id = none ∨ some id = some other) := by
        rintro (hn | hs)
        · cases hn
        · exact hid (Option.some.inj hs).symm
      rw [if_neg hid, if_neg hother, h other]

theorem isKnown_take (h : s.cache.IsKnown known) (a : Step) :
    (s.take a).scanner.cache.IsKnown (replay known (s.take a).events) := by
  cases a with
  | configure tags => exact h
  | scan d => exact isKnown_scan h d
  | invalidate id => exact isKnown_invalidate h id

section Files

variable (openFile : Path → Except Failure Source)

theorem isKnown_scanFile (h : s.cache.IsKnown known) (p : Path) :
    (scanFile openFile s p).scanner.cache.IsKnown
      (replay known (scanFile openFile s p).events) := by
  rw [scanFile]
  cases openFile p with
  | ok d => exact isKnown_scan h d
  | error e => exact h

theorem isKnown_scanFiles (h : s.cache.IsKnown known) (ps : List Path) :
    (scanFiles openFile s ps).scanner.cache.IsKnown
      (replay known (scanFiles openFile s ps).events) := by
  induction ps generalizing s known with
  | nil => exact h
  | cons p ps ih =>
    rw [scanFiles, replay_append]
    exact ih (isKnown_scanFile openFile h p)

theorem isKnown_scanListing (h : s.cache.IsKnown known) (listing : Listing) :
    (s.scanListing listing openFile).scanner.cache.IsKnown
      (replay known (s.scanListing listing openFile).events) := by
  -- Neither what was skipped before the files nor the end of the batch concerns the cache.
  have hevents : replay known (s.scanListing listing openFile).events =
      replay known (scanFiles openFile s listing.files).events := by
    rw [scanListing, replay_append, replay_append, replay_skipped]
    rfl
  rw [hevents]
  exact isKnown_scanFiles openFile h listing.files

end Files

theorem isKnown_act (h : s.cache.IsKnown known) (a : Action) :
    (s.act a).scanner.cache.IsKnown (replay known (s.act a).events) := by
  cases a with
  | step a => exact isKnown_take h a
  | scanMany p included excluded =>
    rw [act, scanMany]
    cases p.list included excluded with
    | error e => exact h
    | ok listing => exact isKnown_scanListing p.openFile h listing

theorem isKnown_run (h : s.cache.IsKnown known) (actions : List Action) :
    (s.run actions).scanner.cache.IsKnown (replay known (s.run actions).events) := by
  induction actions generalizing s known with
  | nil => exact h
  | cons a rest ih =>
    rw [run, replay_append]
    exact ih (isKnown_act h a)

theorem run_events_append (s : Scanner) (actions more : List Action) :
    (s.run (actions ++ more)).events =
      (s.run actions).events ++ ((s.run actions).scanner.run more).events := by
  induction actions generalizing s with
  | nil => rfl
  | cons a rest ih => rw [List.cons_append, run, run, ih, List.append_assoc]

/-- One who follows a scanner from an empty cache on and sees every event knows after each
action which documents have an entry, and of each the number of its tags. -/
theorem replay_run (h : s.cache = .empty) (actions more : List Action) :
    ∃ later, (s.run (actions ++ more)).events = (s.run actions).events ++ later ∧
      ∀ id, (replay .empty (s.run actions).events).get? id =
        ((s.run actions).scanner.cache.entries.get? id).map List.length := by
  refine ⟨_, s.run_events_append actions more, ?_⟩
  apply isKnown_run
  intro id
  rw [h]
  rfl

/-- Of two documents scanned, one is dropped again; the other is known to have no tag, and a scan
of it that cannot take place tells nothing. -/
theorem replay_run_dropped :
    let a := (Document.ofText "a.py" "python" "# done".toList).source
    let b := (Document.ofText "b.py" "python" "# never\nmind".toList).source
    let actions : List Action := [.step (.scan a), .step (.configure [.named " ", .named "todo"]),
      .step (.scan b), .step (.scan { b with isScannable := false }),
      .step (.invalidate (some "a.py"))]
    let events := (standard.run actions).events
    events.length = 4 ∧ (replay .empty events).get? "a.py" = none ∧
      (replay .empty events).get? "b.py" = some 0 := by
  intro a b actions events
  obtain ⟨-, -, h⟩ := replay_run (s := standard) rfl actions []
  exact ⟨by decide +kernel, (h "a.py").trans (by decide +kernel),
    (h "b.py").trans (by decide +kernel)⟩

end Scanner

end CommentTags
