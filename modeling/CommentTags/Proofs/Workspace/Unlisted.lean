import CommentTags.Proofs.Files.Below
import CommentTags.Proofs.Workspace.Burst

/-!
Files that are no longer listed. A change drops the entry of such a file if it names the file
itself, and no other entry; so a burst leaves exactly the entries of the files that no change names,
also where the removal of the folder they were in is one of the changes.
-/
namespace CommentTags

theorem Listing.concat_singleton (l : Listing) : concat [l] = l := by
  rw [concat, List.flatMap_singleton, List.flatMap_singleton]

/-- A folder with one folder in it that is not left out has the files of that folder. -/
theorem FileTree.walkFolder_through {t : FileTree} {settings : ScanSettings} {fuel : Nat}
    {levels : IgnoreLevels} {folder : Visited} {way : List Visited} {name : Text}
    {actual : List Text} (hchildren : t.children folder.actual = [name])
    (hclass : t.classify settings (folder :: way) (folder.shown ++ [name])
      (folder.actual ++ [name]) = .ok ⟨actual, some .folder⟩)
    (hkept : isLeftOut settings levels (folder.shown ++ [name]) true = false) :
    t.walkFolder settings (fuel + 1) levels (folder :: way) =
      t.walkFolder settings fuel
        (levels.enter (IgnoreLevel.ofFolder t settings.gitIgnore (folder.shown ++ [name])).1)
        (⟨folder.shown ++ [name], actual⟩ :: folder :: way) := by
  rw [walkFolder, hchildren, List.map_singleton, Listing.concat_singleton]
  simp only [hclass, hkept, Bool.false_eq_true, if_false]

namespace Workspace

/-- The document has an entry, though it is none of the files that are listed now. -/
def IsUnlisted (candidates : List Path) (c : Cache) (id : DocumentId) : Prop :=
  c.contains id = true ∧ candidates.any (Path.same id) = false

/-- A folder that the document was below was removed. -/
def IsBelowRemoved (changes : List FileChange) (id : DocumentId) : Prop :=
  ∃ change ∈ changes, change.kind = .deleted ∧ Path.IsBelow change.path id

variable (w : Workspace) {t : FileTree} {candidates : List Path} {s : Scanner}

/-- A file that is not listed has no entry after its own change. -/
theorem left?_of_not_listed {change : FileChange} (old : Option (List FoundTag))
    (h : candidates.any (Path.same change.path) = false) :
    w.left? t candidates s change old = none := by
  have hdropped : IsDropped t candidates change := .inr (.inr h)
  rw [left?, if_pos hdropped]

theorem apply_isUnlisted (change : FileChange) (id : DocumentId) :
    IsUnlisted candidates (w.apply t candidates s change).scanner.cache id ↔
      IsUnlisted candidates s.cache id ∧ id ≠ change.path := by
  rw [IsUnlisted, IsUnlisted, Cache.contains, Cache.contains, Keyed.contains, Keyed.contains,
    apply_get?]
  by_cases hid : id = change.path
  · subst hid
    rw [if_pos rfl]
    constructor
    · rintro ⟨hentry, hlisted⟩
      rw [w.left?_of_not_listed _ hlisted] at hentry
      cases hentry
    · exact fun h => (h.2 rfl).elim
  · rw [if_neg hid]
    exact (and_iff_left hid).symm

theorem applyAll_isUnlisted (changes : List FileChange) (id : DocumentId) :
    IsUnlisted candidates (w.applyAll t candidates s changes).scanner.cache id ↔
      IsUnlisted candidates s.cache id ∧ id ∉ changes.map FileChange.path := by
  induction changes generalizing s with
  | nil => exact (and_iff_left List.not_mem_nil).symm
  | cons change changes ih =>
    have hrest := ih (s := (w.apply t candidates s change).scanner)
    rw [apply_isUnlisted, and_assoc] at hrest
    rw [List.map_cons, List.mem_cons, not_or]
    exact hrest

theorem isUnlisted_iff_of_contains {c : Cache} {id : DocumentId} (h : c.contains id = true) :
    IsUnlisted candidates c id ↔ ¬candidates.any (Path.same id) = true := by
  rw [IsUnlisted, Bool.not_eq_true]
  exact and_iff_right h

/-- What a burst leaves of files that are not listed: the entries of those that had one and that no
change names. So all documents with an entry are listed afterwards exactly if each one that is not
listed was named; the removal of the folder around a file does not name the file. -/
theorem applyAll_drops_iff (changes : List FileChange) :
    let after := (w.applyAll t candidates s changes).scanner.cache
    (∀ id, IsUnlisted candidates after id ↔
      IsUnlisted candidates s.cache id ∧ id ∉ changes.map FileChange.path) ∧
    ((∀ id, after.contains id = true → candidates.any (Path.same id) = true) ↔
      ∀ id, IsUnlisted candidates s.cache id → id ∈ changes.map FileChange.path) := by
  intro after
  have hleft : ∀ id, IsUnlisted candidates after id ↔ _ := w.applyAll_isUnlisted changes
  refine ⟨hleft, ?_⟩
  constructor
  · intro hlisted id hid
    by_contra hnot
    have hafter : IsUnlisted candidates after id := (hleft id).mpr ⟨hid, hnot⟩
    exact (isUnlisted_iff_of_contains hafter.1).mp hafter (hlisted id hafter.1)
  · intro hnamed id hentry
    by_contra hnot
    obtain ⟨hid, hunnamed⟩ := (hleft id).mp ((isUnlisted_iff_of_contains hentry).mpr hnot)
    exact hunnamed (hnamed id hid)

/-- A host with one file, in a folder. -/
def libHost : Host where
  files := (FileTree.empty.put ["lib".toList] .folder).put ["lib".toList, "a.py".toList]
    (.file "# TODO: x".toUTF8)
  workingFolder := "/"
  configFolder := "/"

/-- The host without the folder. -/
def emptiedHost : Host := libHost.withFiles (libHost.files.erase ["lib".toList])

theorem list_libHost : rootFolder.list libHost "*.py" none = .ok ⟨["/lib/a.py"], []⟩ := by
  have hlevel : IgnoreLevel.ofFolder libHost.files rootFolder.scan.gitIgnore ["lib".toList] =
      (⟨⟨1, []⟩, .empty, .empty, false⟩, []) := by
    have hjoin : Path.join (Path.ofNames ["lib".toList]) ".ignore" =
        Path.ofNames ["lib".toList, ".ignore".toList] := by decide +kernel
    have hnone : libHost.files.get? ["lib".toList, ".ignore".toList] = none := by
      decide +kernel
    apply ofFolder_of_missing
    rw [hjoin, FileTree.entry_ofNames (by decide) (by decide) (by decide +kernel)
      (by rw [hnone]; simp), hnone]
  have hwalk : libHost.files.walk rootFolder.scan libHost.globalIgnore rootFolder.rootNames =
      ⟨["/lib/a.py"], []⟩ := by
    have hway : libHost.files.maxWay = 15 + 1 := by decide +kernel
    have hchildren : libHost.files.children [] = ["lib".toList] := by decide +kernel
    -- The walk goes one folder at a time, as the lists of a folder are found by a lemma only.
    have hclass : ∀ way, libHost.files.classify rootFolder.scan way ["lib".toList]
        ["lib".toList] = .ok ⟨["lib".toList], some .folder⟩ := fun _ => rfl
    rw [walk_rootFolder (by decide +kernel), hway,
      FileTree.walkFolder_through hchildren (hclass _) (by decide +kernel)]
    simp only [List.nil_append, hlevel]
    decide +kernel
  obtain ⟨f, hf, hl⟩ : ∃ f, rootFolder.filter "*.py" none = .ok f ∧
      rootFolder.isListed f "/lib/a.py" = true := ⟨_, rfl, by decide +kernel⟩
  rw [list_eq rootFolder hf, hwalk]
  simp [hl]

theorem openFile_libHost : rootFolder.openFile libHost.files "/lib/a.py" =
    .ok (Document.ofFile .empty "/lib/a.py" "# TODO: x".toList) := by
  have hentry : libHost.files.entry "/lib/a.py" = .ok (.file "# TODO: x".toUTF8) := by
    have hpath : "/lib/a.py" = Path.ofNames ["lib".toList, "a.py".toList] := by decide +kernel
    have hfile : libHost.files.get? ["lib".toList, "a.py".toList] =
        some (.file "# TODO: x".toUTF8) := by decide +kernel
    rw [hpath, FileTree.entry_ofNames (by decide) (by decide) (by decide +kernel)
      (by rw [hfile]; simp), hfile]
  exact rootFolder.openFile_of_entry hentry (by decide +kernel) (by decide +kernel)

theorem remove_libHost : libHost.files.remove "/lib" = .ok emptiedHost.files := by
  have hpath : "/lib" = Path.ofNames ["lib".toList] := by decide +kernel
  have hfolder : libHost.files.get? ["lib".toList] = some .folder := by decide +kernel
  have hplace : libHost.files.place false (Path.ofNames ["lib".toList]) = .ok ⟨["lib".toList], _⟩ :=
    FileTree.place_ofNames (by decide) (by decide) (by decide +kernel) (by rw [hfolder]; simp)
  rw [FileTree.remove, hpath, hplace, hfolder]
  rfl

theorem list_emptiedHost : rootFolder.list emptiedHost "*.py" none = .ok ⟨[], []⟩ := by
  have hwalk : emptiedHost.files.walk rootFolder.scan emptiedHost.globalIgnore
      rootFolder.rootNames = ⟨[], []⟩ := by
    rw [walk_rootFolder (by decide +kernel)]
    decide +kernel
  obtain ⟨f, hf⟩ : ∃ f, rootFolder.filter "*.py" none = .ok f := ⟨_, rfl⟩
  rw [list_eq rootFolder hf, hwalk]
  simp

/-- What a scan of all files leaves. -/
def libScan : Scanner.Outcome Batch :=
  rootFolder.scanListing libHost.files Scanner.standard ⟨["/lib/a.py"], []⟩

theorem scanMany_libHost :
    rootFolder.scanMany libHost Scanner.standard "*.py" none = .ok libScan := by
  rw [scanMany, list_libHost]
  rfl

theorem contains_libScan (id : DocumentId) :
    libScan.scanner.cache.contains id = true ↔ id = "/lib/a.py" := by
  have hids : ∀ p d, (rootFolder.openFile libHost.files p).map Document.source = .ok d →
      d.id = p := fun _ _ => rootFolder.source_id
  have hentry : libScan.scanner.cache.entries.get? id = _ :=
    Scanner.standard.scanFiles_entry hids ["/lib/a.py"] id
  rw [Cache.contains, Keyed.contains, hentry]
  by_cases hid : id = "/lib/a.py"
  · subst hid
    have hscan : (Document.ofFile .empty "/lib/a.py" "# TODO: x".toList).isScannable = true := by
      decide +kernel
    rw [if_pos List.mem_cons_self, Scanner.keptOf?, openFile_libHost]
    change ((Source.kept? _ _ _).or _).isSome = true ↔ _
    rw [Document.kept?_source rfl, if_pos hscan]
    exact iff_of_true rfl rfl
  · rw [if_neg (List.mem_singleton.not.mpr hid)]
    exact iff_of_false Bool.false_ne_true hid

/-- The only file has an entry after a scan, and is listed no more when its folder was removed.
The change that tells of this names the folder, so the entry stays. -/
theorem applyAll_keeps_below_removed :
    let changes : List FileChange := [⟨.deleted, "/lib"⟩]
    rootFolder.list libHost "*.py" none = .ok ⟨["/lib/a.py"], []⟩ ∧
      rootFolder.scanMany libHost Scanner.standard "*.py" none = .ok libScan ∧
      (∀ id, libScan.scanner.cache.contains id = true → id ∈ (["/lib/a.py"] : List Path)) ∧
      libHost.files.remove "/lib" = .ok emptiedHost.files ∧
      rootFolder.list emptiedHost "*.py" none = .ok ⟨[], []⟩ ∧
      (∀ id, IsUnlisted [] libScan.scanner.cache id → IsBelowRemoved changes id) ∧
      IsUnlisted [] (rootFolder.applyAll emptiedHost.files [] libScan.scanner changes).scanner.cache
        "/lib/a.py" := by
  intro changes
  refine ⟨list_libHost, scanMany_libHost, ?_, remove_libHost, list_emptiedHost, ?_, ?_⟩
  · intro id hentry
    exact List.mem_singleton.mpr ((contains_libScan id).mp hentry)
  · rintro id ⟨hentry, -⟩
    have hbelow : Path.IsBelow "/lib" "/lib/a.py" := ⟨"a.py", by decide, by decide⟩
    rw [(contains_libScan id).mp hentry]
    exact ⟨⟨.deleted, "/lib"⟩, List.mem_cons_self, rfl, hbelow⟩
  · rw [applyAll_isUnlisted]
    exact ⟨⟨(contains_libScan _).mpr rfl, rfl⟩, by decide⟩

end Workspace

end CommentTags
