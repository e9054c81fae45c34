import CommentTags.Scanner.Batch

/-!
What one scan finds and what it leaves in the cache, both without regard to the cache before it.
-/
namespace CommentTags

namespace Source

variable (d : Source) (languages : Languages) (tags : TagSet)

/-- The document can be scanned, and no line that a scan asks it for is missing. In a language
without known comments no line is asked for. -/
def completes : Bool :=
  d.isScannable && (languages.get? d.language).all fun _ =>
    (List.range d.lineCount).all fun i => (d.lineText i).isSome

/-- The tags on the lines before the first missing one. -/
def found : List FoundTag :=
  if d.isScannable then
    ((languages.get? d.language).map fun markers =>
      (d.search tags markers .outside 0 d.lineCount).1).getD []
  else []

/-- What a scan leaves under the identity of the document, if it completes. -/
def kept? : Option (List FoundTag) :=
  if d.completes languages then some (d.found languages tags) else none

theorem search_snd (markers : Markers) (state : BlockState) (line count : Nat) :
    (d.search tags markers state line count).2 =
      (List.range' line count).all fun i => (d.lineText i).isSome := by
  induction count generalizing state line with
  | zero => rfl
  | succ count ih =>
    rw [List.range'_succ, List.all_cons, search]
    cases d.lineText line with
    | none => rfl
    | some t => simpa using ih _ (line + 1)

theorem search_document {markers : Markers} {state : BlockState} {line count : Nat}
    {t : FoundTag} (h : t ∈ (d.search tags markers state line count).1) : t.document = d.id := by
  induction count generalizing state line with
  | zero => simp [search] at h
  | succ count ih =>
    rw [search] at h
    cases hl : d.lineText line with
    | none => simp [hl] at h
    | some text =>
      simp only [hl, List.mem_append, Option.mem_toList, Option.map_eq_some_iff] at h
      rcases h with ⟨m, -, rfl⟩ | h
      · rfl
      · exact ih h

theorem found_document {t : FoundTag} (h : t ∈ d.found languages tags) : t.document = d.id := by
  rw [found] at h
  split at h
  · cases hm : languages.get? d.language with
    | none => simp [hm] at h
    | some markers => exact d.search_document tags (by simpa [hm] using h)
  · simp at h

end Source

namespace Scanner

variable (s : Scanner) (d : Source)

theorem scan_eq :
    s.scan d =
      if d.completes s.languages then s.keep d.id (d.found s.languages s.tags)
      else ⟨d.found s.languages s.tags, s, []⟩ := by
  rw [scan, Source.completes, Source.found]
  cases d.isScannable with
  | false => rfl
  | true =>
    cases s.languages.get? d.language with
    | none => rfl
    | some markers => simp [d.search_snd, List.range_eq_range']

theorem scan_answer : (s.scan d).answer = d.found s.languages s.tags := by
  rw [scan_eq]
  split <;> rfl

theorem scan_tags : (s.scan d).scanner.tags = s.tags := by
  rw [scan_eq]
  split <;> rfl

theorem scan_languages : (s.scan d).scanner.languages = s.languages := by
  rw [scan_eq]
  split <;> rfl

/-- A scan changes no entry but that of its document, and this one only if it completes. -/
theorem scan_entry (id : DocumentId) :
    (s.scan d).scanner.cache.entries.get? id =
      if d.id = id then (d.kept? s.languages s.tags).or (s.cache.entries.get? id)
      else s.cache.entries.get? id := by
  rw [scan_eq, Source.kept?]
  by_cases hc : d.completes s.languages = true
  · simp only [hc, if_true, keep, Cache.put, Keyed.get?_insert, eq_comm (a := id),
      Option.some_or]
  · simp [hc]

theorem invalidate_entry (gone : Option DocumentId) (id : DocumentId) :
    (s.invalidate gone).scanner.cache.entries.get? id =
      if gone = none ∨ gone = some id then none else s.cache.entries.get? id := by
  cases gone with
  | none => simp [invalidate, Cache.invalidate, Cache.empty, Keyed.get?_empty]
  | some j =>
    simp [invalidate, Cache.invalidate, Cache.erase, Keyed.get?_erase, eq_comm (a := j)]

variable (openFile : Path → Except Failure Source)

theorem scanFile_tags (p : Path) : (scanFile openFile s p).scanner.tags = s.tags := by
  rw [scanFile]
  cases openFile p with
  | ok d => exact s.scan_tags d
  | error e => rfl

theorem scanFile_languages (p : Path) :
    (scanFile openFile s p).scanner.languages = s.languages := by
  rw [scanFile]
  cases openFile p with
  | ok d => exact s.scan_languages d
  | error e => rfl

/-- What a scan of a file leaves of it; nothing if it does not open. -/
def keptOf? (p : Path) : Option (List FoundTag) :=
  (openFile p).toOption.bind fun d => d.kept? s.languages s.tags

variable {openFile} (hid : ∀ p d, openFile p = .ok d → d.id = p)

include hid

theorem scanFile_entry (p : Path) (id : DocumentId) :
    (scanFile openFile s p).scanner.cache.entries.get? id =
      if p = id then (s.keptOf? openFile id).or (s.cache.entries.get? id)
      else s.cache.entries.get? id := by
  rw [scanFile]
  cases ho : openFile p with
  | ok d =>
    change (s.scan d).scanner.cache.entries.get? id = _
    rw [scan_entry, hid p d ho]
    by_cases hp : p = id
    · subst hp
      rw [if_pos rfl, if_pos rfl, keptOf?, ho]
      rfl
    · rw [if_neg hp, if_neg hp]
  | error e =>
    by_cases hp : p = id
    · subst hp
      rw [if_pos rfl, keptOf?, ho]
      rfl
    · rw [if_neg hp]

/-- Where each file is a document under its own path, a scan of files changes the entries of
those among them that complete. -/
theorem scanFiles_entry (ps : List Path) (id : DocumentId) :
    (scanFiles openFile s ps).scanner.cache.entries.get? id =
      if id ∈ ps then (s.keptOf? openFile id).or (s.cache.entries.get? id)
      else s.cache.entries.get? id := by
  induction ps generalizing s with
  | nil => rfl
  | cons p ps ih =>
    have hkept : (scanFile openFile s p).scanner.keptOf? openFile id =
        s.keptOf? openFile id := by
      rw [keptOf?, keptOf?, scanFile_tags, scanFile_languages]
    rw [scanFiles, ih, hkept, s.scanFile_entry hid]
    by_cases hp : p = id
    · subst hp
      rw [if_pos rfl, if_pos List.mem_cons_self]
      split
      · cases s.keptOf? openFile p <;> rfl
      · rfl
    · simp only [if_neg hp, List.mem_cons, Ne.symm hp, false_or]

end Scanner

end CommentTags
