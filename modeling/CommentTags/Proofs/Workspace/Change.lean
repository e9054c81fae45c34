import CommentTags.Proofs.Files.Walk
import CommentTags.Proofs.Scanner.Lines
import CommentTags.Workspace.Change

/-!
Bringing one file up to date against scanning all files anew. Both leave the same of the file,
except where it has an entry and its present text is not scanned.
-/
namespace CommentTags

namespace Document

variable {d : Document}

theorem kept?_source (h : d.isClosed = false) (languages : Languages) (tags : TagSet) :
    d.source.kept? languages tags =
      if d.isScannable then some (d.source.found languages tags) else none := by
  rw [Source.kept?, completes_source h]

/-- A file is scanned unless it is binary, be it by its text or by its extension. -/
theorem isScannable_ofFile (extensions : Keyed String String) (p : Path) (content : Text) :
    (ofFile extensions p content).isScannable =
      ((ofFile extensions p content).language != Language.binary) := by
  cases hn : (Buffer.ofText content).hasNul with
  | true => simp [isScannable, ofFile, hn]
  | false => simp [isScannable, ofFile, hn]

end Document

namespace Workspace

variable (w : Workspace) {t : FileTree} {p : Path} {d : Document}

theorem openFile_eq_ofFile (h : w.openFile t p = .ok d) :
    t.isFile p = true ∧ ∃ content, d = Document.ofFile w.extensions p content := by
  obtain ⟨size, -, h⟩ := exists_of_bind_eq_ok h
  dsimp only at h
  split at h
  · cases h
  · rw [Document.load] at h
    cases hread : t.readText p with
    | error f => rw [hread] at h; cases h
    | ok content =>
      rw [hread] at h
      cases h
      refine ⟨?_, content, rfl⟩
      obtain ⟨entry, hentry, hcontent⟩ := exists_of_bind_eq_ok hread
      split at hcontent
      · rw [FileTree.isFile, hentry]
      · cases hcontent

/-- A file that is not too large opens with its text. -/
theorem openFile_of_entry {content : ByteArray} {text : Text}
    (hentry : t.entry p = .ok (.file content)) (hsize : content.size ≤ w.scan.maxFileBytes)
    (hdecode : FileTree.decode content = .ok text) :
    w.openFile t p = .ok (Document.ofFile w.extensions p text) := by
  have hread : t.readText p = .ok text := by
    rw [FileTree.readText, hentry]
    exact hdecode
  have hload : Document.load t w.extensions p = .ok (Document.ofFile w.extensions p text) := by
    rw [Document.load, hread]
  have hbytes : t.size p = .ok content.size := by
    rw [FileTree.size, hentry]
    rfl
  have hfits : ¬w.scan.maxFileBytes < content.size := Nat.not_lt.mpr hsize
  simp only [openFile, hbytes, Except.mapError, bind, Except.bind, hfits, if_false, hload]

theorem source_id {d : Source} (h : (w.openFile t p).map Document.source = .ok d) : d.id = p := by
  cases ho : w.openFile t p with
  | error f => rw [ho] at h; cases h
  | ok document =>
    rw [ho] at h
    cases h
    obtain ⟨-, content, rfl⟩ := w.openFile_eq_ofFile ho
    rfl

section Listing

variable {h : Host} {included : String} {excluded : Option String} {listing : Listing}

theorem list_eq {f : FileFilter} (hf : w.filter included excluded = .ok f) :
    w.list h included excluded =
      let walked := h.files.walk w.scan h.globalIgnore w.rootNames
      .ok ⟨(walked.files.filter (w.isListed f)).mergeSort Path.le, walked.unreadable⟩ := by
  rw [list, hf]
  rfl

theorem isName_of_mem_rootNames {name : Text} (hn : name ∈ w.rootNames) : Path.IsName name := by
  obtain ⟨hpiece, hsilent⟩ := List.mem_filter.mp hn
  exact ⟨by simpa using hsilent, Text.not_mem_of_mem_fields hpiece⟩

theorem list_names (hfiles : h.files.WellNamed) (hlist : w.list h included excluded = .ok listing)
    (hp : p ∈ listing.files) :
    ∃ names, (∀ name ∈ names, Path.IsName name) ∧ p = Path.ofNames names := by
  obtain ⟨f, -, hlist⟩ := exists_of_bind_eq_ok hlist
  cases hlist
  have hwalked := (List.mem_filter.mp (List.mem_mergeSort.mp hp)).1
  exact FileTree.walk_names hfiles w.scan (fun _ hn => w.isName_of_mem_rootNames hn) hwalked

/-- A path of names is that of a listed file only if it is listed itself. -/
theorem any_same_iff (hfiles : h.files.WellNamed)
    (hlist : w.list h included excluded = .ok listing) {names : List Text}
    (hnames : ∀ name ∈ names, Path.IsName name) (hp : p = Path.ofNames names) :
    listing.files.any (Path.same p) = true ↔ p ∈ listing.files := by
  rw [List.any_eq_true]
  constructor
  · rintro ⟨q, hq, hsame⟩
    obtain ⟨others, hothers, rfl⟩ := w.list_names hfiles hlist hq
    subst hp
    rw [Path.eq_of_same hnames hothers hsame]
    exact hq
  · intro hmem
    exact ⟨p, hmem, beq_self_eq_true _⟩

/-- What a scan of all files leaves of one of them, after an empty cache. -/
theorem scanMany_entry (s : Scanner) (hlist : w.list h included excluded = .ok listing) :
    ∃ batch, w.scanMany h { s with cache := .empty } included excluded = .ok batch ∧
      batch.scanner.cache.entries.get? p =
        if p ∈ listing.files then
          s.keptOf? (fun p => (w.openFile h.files p).map Document.source) p
        else none := by
  refine ⟨w.scanListing h.files { s with cache := .empty } listing, ?_, ?_⟩
  · rw [scanMany, hlist]
    rfl
  · have hid : ∀ q d, (w.openFile h.files q).map Document.source = .ok d → d.id = q :=
      fun _ _ hd => w.source_id hd
    have hentry := Scanner.scanFiles_entry { s with cache := .empty } hid listing.files p
    rw [show ({ s with cache := .empty } : Scanner).cache.entries.get? p = none from rfl,
      Option.or_none] at hentry
    exact hentry

end Listing

section Change

variable {candidates : List Path} {change : FileChange}

/-- The file is not there, or not one of those that are scanned. -/
def IsDropped (t : FileTree) (candidates : List Path) (change : FileChange) : Prop :=
  change.kind = .deleted ∨ t.isFile change.path = false ∨
    candidates.any (Path.same change.path) = false

theorem apply_of_dropped (s : Scanner) (hd : IsDropped t candidates change) (id : DocumentId) :
    (w.apply t candidates s change).scanner.cache.entries.get? id =
      if id = change.path then none else s.cache.entries.get? id := by
  have hcond : (decide (change.kind = .deleted) || !t.isFile change.path ||
      !candidates.any (Path.same change.path)) = true := by
    rcases hd with h | h | h <;> simp [h]
  rw [apply]
  simp only [hcond, if_true]
  split
  · rw [Scanner.invalidate_entry]
    simp [eq_comm (a := id)]
  · rename_i hc
    by_cases hid : id = change.path
    · subst hid
      rw [if_pos rfl]
      simpa [Cache.contains, Keyed.contains] using hc
    · rw [if_neg hid]

theorem apply_of_not_dropped (s : Scanner) (hd : ¬IsDropped t candidates change)
    (id : DocumentId) :
    (w.apply t candidates s change).scanner.cache.entries.get? id =
      if id = change.path then
        match w.openFile t change.path with
        | .ok d => (d.source.kept? s.languages s.tags).or (s.cache.entries.get? id)
        | .error _ => none
      else s.cache.entries.get? id := by
  have hcond : (decide (change.kind = .deleted) || !t.isFile change.path ||
      !candidates.any (Path.same change.path)) = false := by
    simpa [IsDropped, and_assoc] using hd
  rw [apply]
  simp only [hcond, Bool.false_eq_true, if_false]
  cases ho : w.openFile t change.path with
  | ok d =>
    obtain ⟨-, content, rfl⟩ := w.openFile_eq_ofFile ho
    rw [Scanner.scan_entry]
    by_cases hid : id = change.path
    · subst hid
      rw [if_pos rfl]
      exact if_pos rfl
    · rw [if_neg hid]
      exact if_neg (Ne.symm hid)
  | error f =>
    rw [Scanner.invalidate_entry]
    simp [eq_comm (a := id)]

/-- The file is listed and has an entry, but is binary now. -/
def IsStale (w : Workspace) (t : FileTree) (candidates : List Path) (s : Scanner) (p : Path) :
    Prop :=
  p ∈ candidates ∧ s.cache.contains p = true ∧
    ∃ d, w.openFile t p = .ok d ∧ d.language = Language.binary

theorem not_isDropped (hgone : change.kind = .deleted → t.isFile change.path = false)
    (hsame : candidates.any (Path.same change.path) = true)
    (ho : w.openFile t change.path = .ok d) : ¬IsDropped t candidates change := by
  obtain ⟨hfile, -⟩ := w.openFile_eq_ofFile ho
  rintro (h | h | h)
  · rw [hgone h] at hfile
    cases hfile
  · rw [h] at hfile
    cases hfile
  · rw [h] at hsame
    cases hsame

/-- What bringing a file up to date leaves of it: what a scan leaves, and the old entry where a
scan leaves nothing, if the file is listed and opens; else nothing. -/
theorem apply_entry (s : Scanner) (hgone : change.kind = .deleted → t.isFile change.path = false)
    (hsame : candidates.any (Path.same change.path) = true ↔ change.path ∈ candidates) :
    (w.apply t candidates s change).scanner.cache.entries.get? change.path =
      if change.path ∈ candidates then
        match w.openFile t change.path with
        | .ok d => (d.source.kept? s.languages s.tags).or (s.cache.entries.get? change.path)
        | .error _ => none
      else none := by
  by_cases hd : IsDropped t candidates change
  · rw [w.apply_of_dropped s hd, if_pos rfl]
    by_cases hp : change.path ∈ candidates
    · rw [if_pos hp]
      cases ho : w.openFile t change.path with
      | ok d => exact (w.not_isDropped hgone (hsame.mpr hp) ho hd).elim
      | error f => rfl
    · rw [if_neg hp]
  · have hp : change.path ∈ candidates := by
      rw [← hsame, ← Bool.not_eq_false]
      exact fun hany => hd (.inr (.inr hany))
    rw [w.apply_of_not_dropped s hd, if_pos rfl, if_pos hp]

end Change

/-- Bringing a file up to date leaves of it what a scan of all files would, unless the file is
stale; nothing else changes. -/
theorem apply_eq_scanMany_iff {h : Host} (hfiles : h.files.WellNamed) {included : String}
    {excluded : Option String} {listing : Listing}
    (hlist : w.list h included excluded = .ok listing) (s : Scanner) {change : FileChange}
    {names : List Text} (hnames : ∀ name ∈ names, Path.IsName name)
    (hpath : change.path = Path.ofNames names)
    (hgone : change.kind = .deleted → h.files.isFile change.path = false) :
    let after := (w.apply h.files listing.files s change).scanner.cache.entries
    ∃ batch, w.scanMany h { s with cache := .empty } included excluded = .ok batch ∧
      (after.get? change.path = batch.scanner.cache.entries.get? change.path ↔
        ¬w.IsStale h.files listing.files s change.path) ∧
      ∀ id, id ≠ change.path → after.get? id = s.cache.entries.get? id := by
  intro after
  have hsame := w.any_same_iff hfiles hlist hnames hpath
  obtain ⟨batch, hbatch, hentry⟩ := w.scanMany_entry s hlist (p := change.path)
  refine ⟨batch, hbatch, ?_, ?_⟩
  · have hafter : after.get? change.path = _ := w.apply_entry s hgone hsame
    rw [hafter, hentry, Scanner.keptOf?, IsStale, Cache.contains, Keyed.contains]
    by_cases hp : change.path ∈ listing.files
    · rw [if_pos hp, if_pos hp]
      cases ho : w.openFile h.files change.path with
      | ok d =>
        obtain ⟨-, content, rfl⟩ := w.openFile_eq_ofFile ho
        change (Source.kept? _ _ _).or _ = Source.kept? _ _ _ ↔ _
        rw [Document.kept?_source rfl, Document.isScannable_ofFile]
        by_cases hl : (Document.ofFile w.extensions change.path content).language =
            Language.binary
        · simp [hl, hp]
        · simp [hl]
      | error f => simp [Except.map, Except.toOption]
    · simp [hp]
  · intro id hid
    by_cases hd : IsDropped h.files listing.files change
    · exact (w.apply_of_dropped s hd id).trans (if_neg hid)
    · exact (w.apply_of_not_dropped s hd id).trans (if_neg hid)

/-- A host with one file, which holds a NUL. -/
def nulHost : Host := ⟨FileTree.empty.put ["a.py".toList] (.file ⟨#[35, 0]⟩), "/", "/"⟩

def rootFolder : Workspace :=
  ⟨"/", { ScanSettings.standard with excluded := [], gitIgnore := false }, .empty⟩

/-- A scanner that scanned the file when it held a tag. -/
def formerScanner : Scanner :=
  (Scanner.standard.scan (Document.ofFile .empty "/a.py" "# TODO: x".toList).source).scanner

/-- A folder without a list of its own, where repositories do not count. -/
theorem ofFolder_of_missing {t : FileTree} {names : List Text}
    (h : t.entry ((Path.ofNames names).join ".ignore") = .error .notFound) :
    IgnoreLevel.ofFolder t false names =
      (⟨⟨names.length, []⟩, .empty, .empty, false⟩, []) := by
  have hread : IgnoreList.ofFile t names.length ((Path.ofNames names).join ".ignore") =
      (⟨names.length, []⟩, []) := by
    rw [IgnoreList.ofFile, h]
  simp only [IgnoreLevel.ofFolder, hread]
  rfl

/-- The walk from the root begins with no list. -/
theorem walk_rootFolder {h : Host} (hignore : h.files.get? [".ignore".toList] = none) :
    h.files.walk rootFolder.scan h.globalIgnore rootFolder.rootNames =
      h.files.walkFolder rootFolder.scan h.files.maxWay
        ⟨[⟨⟨0, []⟩, .empty, .empty, false⟩], .empty⟩ [⟨[], []⟩] := by
  have hroot : rootFolder.rootNames = [] := by decide +kernel
  have hlevel : IgnoreLevel.ofFolder h.files rootFolder.scan.gitIgnore [] =
      (⟨⟨0, []⟩, .empty, .empty, false⟩, []) := by
    have hjoin : Path.join (Path.ofNames []) ".ignore" = Path.ofNames [".ignore".toList] := by
      decide +kernel
    have hfolders : ∀ n < [".ignore".toList].length,
        h.files.get? ([".ignore".toList].take n) = some .folder := by
      intro n hn
      rw [Nat.lt_one_iff.mp hn]
      rfl
    apply ofFolder_of_missing
    rw [hjoin, FileTree.entry_ofNames (by decide) (by decide) hfolders (by rw [hignore]; simp),
      hignore]
  rw [hroot, FileTree.walk]
  simp only [hlevel]
  rfl

theorem list_nulHost : rootFolder.list nulHost "*.py" none = .ok ⟨["/a.py"], []⟩ := by
  have hwalk : nulHost.files.walk rootFolder.scan nulHost.globalIgnore rootFolder.rootNames =
      ⟨["/a.py"], []⟩ := by
    rw [walk_rootFolder (by decide +kernel)]
    decide +kernel
  obtain ⟨f, hf, hl⟩ : ∃ f, rootFolder.filter "*.py" none = .ok f ∧
      rootFolder.isListed f "/a.py" = true := ⟨_, rfl, by decide +kernel⟩
  rw [list_eq rootFolder hf, hwalk]
  simp [hl]

theorem openFile_nulHost : rootFolder.openFile nulHost.files "/a.py" =
    .ok (Document.ofFile .empty "/a.py" ['#', '\x00']) := by
  have hentry : nulHost.files.entry "/a.py" = .ok (.file ⟨#[35, 0]⟩) := by
    have hpath : "/a.py" = Path.ofNames ["a.py".toList] := by decide +kernel
    have hfile : nulHost.files.get? ["a.py".toList] = some (.file ⟨#[35, 0]⟩) := by
      decide +kernel
    rw [hpath, FileTree.entry_ofNames (by decide) (by decide) (by decide) (by rw [hfile]; simp),
      hfile]
  have hdecode : FileTree.decode ⟨#[35, 0]⟩ = .ok ['#', '\x00'] := by decide +kernel
  exact rootFolder.openFile_of_entry hentry (by decide) hdecode

theorem formerScanner_entry : formerScanner.cache.entries.get? "/a.py" ≠ none := by
  have hscan : (Document.ofFile .empty "/a.py" "# TODO: x".toList).isScannable = true := by
    decide +kernel
  rw [formerScanner, Scanner.scan_entry, Document.kept?_source rfl, if_pos hscan, if_pos]
  · exact Option.some_ne_none _
  · rfl

theorem apply_nulHost :
    let after := (rootFolder.apply nulHost.files ["/a.py"] formerScanner
      ⟨.modified, "/a.py"⟩).scanner.cache.entries
    ∃ batch, rootFolder.scanMany nulHost { formerScanner with cache := .empty } "*.py" none =
        .ok batch ∧
      (after.get? "/a.py" = batch.scanner.cache.entries.get? "/a.py" ↔
        ¬rootFolder.IsStale nulHost.files ["/a.py"] formerScanner "/a.py") ∧
      ∀ id, id ≠ "/a.py" → after.get? id = formerScanner.cache.entries.get? id :=
  rootFolder.apply_eq_scanMany_iff (by decide) list_nulHost formerScanner
    (show ∀ name ∈ ["a.py".toList], Path.IsName name by decide) (by decide +kernel)
    (fun h => nomatch h)

/-- A file with an entry keeps it when it becomes binary, though a scan of all files would leave
it without one. -/
theorem apply_keeps_stale_entry :
    rootFolder.list nulHost "*.py" none = .ok ⟨["/a.py"], []⟩ ∧
      ∃ batch, rootFolder.scanMany nulHost { formerScanner with cache := .empty } "*.py" none =
          .ok batch ∧
        batch.scanner.cache.entries.get? "/a.py" = none ∧
        (rootFolder.apply nulHost.files ["/a.py"] formerScanner
          ⟨.modified, "/a.py"⟩).scanner.cache.entries.get? "/a.py" ≠ none := by
  obtain ⟨batch, hbatch, hentry⟩ :=
    rootFolder.scanMany_entry formerScanner list_nulHost
  have hafter : (rootFolder.apply nulHost.files ["/a.py"] formerScanner
      ⟨.modified, "/a.py"⟩).scanner.cache.entries.get? "/a.py" = _ :=
    rootFolder.apply_entry formerScanner (fun h => nomatch h) (by decide +kernel)
  have hkept : ∀ languages tags,
      (Document.ofFile .empty "/a.py" ['#', '\x00']).source.kept? languages tags = none := by
    intro languages tags
    rw [Document.kept?_source rfl]
    exact if_neg (by decide +kernel)
  refine ⟨list_nulHost, batch, hbatch, ?_, ?_⟩
  · rw [hentry, Scanner.keptOf?, openFile_nulHost]
    exact (if_pos List.mem_cons_self).trans (hkept _ _)
  · rw [hafter, if_pos List.mem_cons_self, openFile_nulHost]
    change (Source.kept? _ _ _).or _ ≠ none
    rw [hkept, Option.none_or]
    exact formerScanner_entry

end Workspace

end CommentTags
