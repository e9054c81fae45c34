import CommentTags.Proofs.Files.Order
import CommentTags.Proofs.Files.Walk
import CommentTags.Proofs.Sort
import CommentTags.Proofs.Workspace.Change

/-!
One glob more to leave files out by. Wherever it stands among the globs, the listing is the one
without it, less the files that it matches; and each listing holds the files of the walk that the
globs admit, in their order.
-/
namespace CommentTags

section Filter

variable {included e : String} {excluded : List String} {g : Glob} {f : FileFilter} {path : Path}

/-- Among others a glob matches as it does alone, unless it looks for a name that the path, as it
ends in a full stop, has not. -/
theorem Glob.excludes_eq_isMatch
    (h : path.toList.getLast? = some '.' → g.looksAtName = false) :
    g.excludes path = g.isMatch path := by
  rw [excludes]
  by_cases hstop : path.toList.getLast? = some '.'
  · rw [h hstop, Bool.and_false, Bool.not_false, Bool.and_true]
  · have hother : (path.toList.getLast? == some '.') = false := beq_eq_false_iff_ne.mpr hstop
    rw [hother, Bool.false_and, Bool.not_false, Bool.and_true]

/-- With one more glob, what passes is what passes without it and is not matched. -/
theorem FileFilter.read_insert (he : Glob.read e = .ok g) (included : String)
    (before after : List String) :
    (read included (before ++ e :: after)).map passes =
      (read included (before ++ after)).map fun f path => f.passes path && !g.excludes path := by
  simp only [read, List.mapM_append, List.mapM_cons, he]
  cases Glob.read included with
  | error flaw => rfl
  | ok i =>
    cases before.mapM Glob.read with
    | error flaw => rfl
    | ok gs =>
      cases after.mapM Glob.read with
      | error flaw => rfl
      | ok hs =>
        refine congrArg Except.ok (funext fun path => ?_)
        simp only [passes, List.any_append, List.any_cons]
        cases i.isMatch path <;> cases g.excludes path <;> simp

/-- The including glob matches the path, and none of the others does. -/
def FileFilter.Admits (included : String) (excluded : List String) (path : Path) : Prop :=
  (∃ g, Glob.read included = .ok g ∧ g.isMatch path = true) ∧
    ∀ e ∈ excluded, ∀ g, Glob.read e = .ok g → g.excludes path = false

theorem FileFilter.passes_iff (h : read included excluded = .ok f) :
    f.passes path = true ↔ Admits included excluded path := by
  obtain ⟨i, hi, h⟩ := exists_of_bind_eq_ok h
  obtain ⟨gs, hgs, h⟩ := exists_of_bind_eq_ok h
  cases h
  have hnone : (gs.any fun g => g.excludes path) = false ↔
      ∀ e ∈ excluded, ∀ g, Glob.read e = .ok g → g.excludes path = false := by
    rw [List.any_eq_false]
    constructor
    · intro hall e he g hg
      exact Bool.eq_false_iff.mpr (hall g ((mem_of_mapM_eq_ok hgs g).mpr ⟨e, he, hg⟩))
    · intro hall g hg
      obtain ⟨e, he, hread⟩ := (mem_of_mapM_eq_ok hgs g).mp hg
      exact Bool.eq_false_iff.mp (hall e he g hread)
  rw [passes, Admits, Bool.and_eq_true, Bool.not_eq_true', hnone]
  refine and_congr_left fun _ => ⟨fun hmatch => ⟨i, hi, hmatch⟩, ?_⟩
  rintro ⟨j, hj, hmatch⟩
  rw [hi] at hj
  cases hj
  exact hmatch

end Filter

namespace Workspace

variable (w : Workspace) (h : Host)

/-- The workspace with other globs in its settings. -/
def withExcluded (globs : List String) : Workspace :=
  { w with scan := { w.scan with excluded := globs } }

/-- All files below the root that are not ignored. -/
def walked : Listing := h.files.walk w.scan h.globalIgnore w.rootNames

/-- The listing of the files whose paths pass. -/
def listed (passes : Path → Bool) : Listing where
  files := ((w.walked h).files.filter fun p =>
    (w.relative? p).any passes && mayHoldText p).mergeSort Path.le
  unreadable := (w.walked h).unreadable

/-- The listing without the files whose paths match. -/
def without (isMatch : Path → Bool) (l : Listing) : Listing :=
  { l with files := l.files.filter fun p => !(w.relative? p).any isMatch }

@[simp]
theorem excluded_withExcluded (globs : List String) :
    (w.withExcluded globs).scan.excluded = globs := rfl

@[simp]
theorem walked_withExcluded (globs : List String) :
    (w.withExcluded globs).walked h = w.walked h :=
  h.files.walk_withExcluded w.scan globs h.globalIgnore w.rootNames

@[simp]
theorem listed_withExcluded (globs : List String) (passes : Path → Bool) :
    (w.withExcluded globs).listed h passes = w.listed h passes := by
  rw [listed, listed, walked_withExcluded]
  rfl

theorem list_eq_listed (included : String) (excluded : Option String) :
    w.list h included excluded =
      match (FileFilter.read included (w.scan.excluded ++ excluded.toList)).map
        FileFilter.passes with
      | .ok passes => .ok (w.listed h passes)
      | .error e => .error (.glob e) := by
  cases hread : FileFilter.read included (w.scan.excluded ++ excluded.toList) with
  | error e =>
    rw [list, filter, hread]
    rfl
  | ok f =>
    have hfilter : w.filter included excluded = .ok f := by rw [filter, hread]
    have hlisted : w.isListed f = fun p => (w.relative? p).any f.passes && mayHoldText p := by
      funext p
      rw [isListed]
      cases w.relative? p <;> rfl
    rw [list_eq w hfilter, hlisted]
    rfl

theorem listed_and_not (passes isMatch : Path → Bool) :
    w.listed h (fun q => passes q && !isMatch q) = w.without isMatch (w.listed h passes) := by
  have hfiles : ((w.walked h).files.filter fun p =>
        (w.relative? p).any (fun q => passes q && !isMatch q) && mayHoldText p) =
      ((w.walked h).files.filter fun p => (w.relative? p).any passes && mayHoldText p).filter
        fun p => !(w.relative? p).any isMatch := by
    rw [List.filter_filter]
    apply List.filter_congr
    intro p _
    cases w.relative? p with
    | none => rfl
    | some q =>
      rw [Option.any_some, Option.any_some, Option.any_some]
      cases passes q <;> cases isMatch q <;> rfl
  rw [without, listed, listed, hfiles, ← Sort.filter_mergeSort Path.le_trans Path.le_total]

variable {e : String} {g : Glob}

/-- Wherever the globs come from, only which ones there are makes a difference. -/
theorem list_insert (he : Glob.read e = .ok g) {globs others : List String}
    {included : String} {excluded excluded' : Option String} (before after : List String)
    (hwith : globs ++ excluded.toList = before ++ e :: after)
    (hwithout : others ++ excluded'.toList = before ++ after) :
    (w.withExcluded globs).list h included excluded =
      ((w.withExcluded others).list h included excluded').map (w.without g.excludes) := by
  rw [list_eq_listed, list_eq_listed, excluded_withExcluded, excluded_withExcluded, hwith,
    hwithout, FileFilter.read_insert he]
  cases FileFilter.read included (before ++ after) with
  | error flaw => rfl
  | ok f =>
    refine congrArg Except.ok ?_
    rw [listed_withExcluded, listed_withExcluded, listed_and_not]

/-- What a listing holds. -/
structure Lists (included : String) (excluded : Option String) (l : Listing) : Prop where
  ascending : l.files.Pairwise fun p q => p.le q = true ∧ p.same q = false
  mem_files_iff : ∀ p, p ∈ l.files ↔ p ∈ (w.walked h).files ∧ mayHoldText p = true ∧
    ∃ q, w.relative? p = some q ∧ FileFilter.Admits included (w.scan.excluded ++ excluded.toList) q
  isFile : ∀ p ∈ l.files, h.files.isFile p = true
  unreadable_eq : l.unreadable = (w.walked h).unreadable

variable {h} {included : String} {excluded : Option String} {l : Listing}

theorem exists_filter_of_list (hl : w.list h included excluded = .ok l) :
    ∃ f, FileFilter.read included (w.scan.excluded ++ excluded.toList) = .ok f ∧
      l = w.listed h f.passes := by
  rw [list_eq_listed] at hl
  cases hread : FileFilter.read included (w.scan.excluded ++ excluded.toList) with
  | error e =>
    rw [hread] at hl
    cases hl
  | ok f =>
    rw [hread] at hl
    cases hl
    exact ⟨f, rfl, rfl⟩

theorem mem_files_listed {passes : Path → Bool} {p : Path} :
    p ∈ (w.listed h passes).files ↔ p ∈ (w.walked h).files ∧ mayHoldText p = true ∧
      ∃ q, w.relative? p = some q ∧ passes q = true := by
  rw [listed, List.mem_mergeSort, List.mem_filter, Bool.and_eq_true, Option.any_eq_true,
    and_comm (b := mayHoldText p = true)]

/-- The files are in their order, and each is listed once. -/
theorem ascending_of_list (hfiles : h.files.WellFormed)
    (hl : w.list h included excluded = .ok l) :
    l.files.Pairwise fun p q => p.le q = true ∧ p.same q = false := by
  obtain ⟨f, -, hlisted⟩ := w.exists_filter_of_list hl
  have hsorted : l.files.Pairwise fun p q => p.le q = true := by
    rw [hlisted]
    exact List.pairwise_mergeSort Path.le_trans Path.le_total _
  have hnodup : l.files.Nodup := by
    have hwalked : (w.walked h).files.Nodup := FileTree.nodup_walk hfiles.wellNamed w.scan
      h.globalIgnore fun _ hn => w.isName_of_mem_rootNames hn
    rw [hlisted, listed, (List.mergeSort_perm _ _).nodup_iff]
    exact hwalked.filter _
  refine (hsorted.and hnodup).imp_of_mem ?_
  rintro p q hp hq ⟨hle, hne⟩
  obtain ⟨names, hnames, rfl⟩ := w.list_names hfiles.wellNamed hl hp
  obtain ⟨others, hothers, rfl⟩ := w.list_names hfiles.wellNamed hl hq
  exact ⟨hle, Bool.eq_false_iff.mpr fun hsame => hne (Path.eq_of_same hnames hothers hsame)⟩

theorem lists_of_list (hfiles : h.files.WellFormed) (hl : w.list h included excluded = .ok l) :
    w.Lists h included excluded l := by
  have hascending := w.ascending_of_list hfiles hl
  obtain ⟨f, hread, rfl⟩ := w.exists_filter_of_list hl
  refine ⟨hascending, ?_, ?_, rfl⟩
  · intro p
    simp only [mem_files_listed, FileFilter.passes_iff hread]
  · intro p hp
    exact FileTree.isFile_of_mem_walk hfiles (fun _ hn => w.isName_of_mem_rootNames hn)
      (w.mem_files_listed.mp hp).1

/-- A glob to leave files out by takes from the listing the files that it matches, and nothing else,
whether it comes last or is one of the settings'; it matches them as it does alone, but for paths
that have no name where it looks for one. All that is listed is a file of the walk that the globs
admit, and stands there once, in its place. -/
theorem list_excluding (hfiles : h.files.WellFormed) (he : Glob.read e = .ok g)
    (included : String) :
    w.list h included (some e) = (w.list h included none).map (w.without g.excludes) ∧
      (∀ excluded, (w.withExcluded (w.scan.excluded ++ [e])).list h included excluded =
        (w.list h included excluded).map (w.without g.excludes)) ∧
      (∀ path : Path, (path.toList.getLast? = some '.' → g.looksAtName = false) →
        g.excludes path = g.isMatch path) ∧
      ∀ excluded l, w.list h included excluded = .ok l → w.Lists h included excluded l := by
  refine ⟨?_, ?_, fun _ => Glob.excludes_eq_isMatch, fun _ _ => w.lists_of_list hfiles⟩
  · exact w.list_insert h he w.scan.excluded [] rfl rfl
  · intro excluded
    exact w.list_insert h he w.scan.excluded excluded.toList (List.append_assoc _ _ _) rfl

/-- A host with two files. -/
def twoFileHost : Host where
  files := (FileTree.empty.put ["b.py".toList] (.file ⟨#[]⟩)).put ["a.py".toList] (.file ⟨#[]⟩)
  workingFolder := "/"
  configFolder := "/"

theorem list_twoFileHost :
    rootFolder.list twoFileHost "*.py" none = .ok ⟨["/a.py", "/b.py"], []⟩ := by
  have hwalk : twoFileHost.files.walk rootFolder.scan twoFileHost.globalIgnore
      rootFolder.rootNames = ⟨["/b.py", "/a.py"], []⟩ := by
    rw [walk_rootFolder (by decide +kernel)]
    decide +kernel
  obtain ⟨f, hf, hb, ha⟩ : ∃ f, rootFolder.filter "*.py" none = .ok f ∧
      rootFolder.isListed f "/b.py" = true ∧ rootFolder.isListed f "/a.py" = true :=
    ⟨_, rfl, by decide +kernel, by decide +kernel⟩
  have hsort : ["/b.py", "/a.py"].mergeSort Path.le = ["/a.py", "/b.py"] := by
    rw [Sort.mergeSort_cons_eq Path.le_trans Path.le_total, List.mergeSort_singleton]
    decide +kernel
  rw [list_eq rootFolder hf, hwalk]
  simp [hb, ha, hsort]

theorem list_excluding_twoFileHost :
    ∃ g, twoFileHost.files.WellFormed ∧ Glob.read "a.??" = .ok g ∧
      g.excludes "a.py" = g.isMatch "a.py" ∧
      rootFolder.list twoFileHost "*.py" (some "a.??") = .ok ⟨["/b.py"], []⟩ ∧
      (rootFolder.withExcluded ["a.??"]).list twoFileHost "*.py" none = .ok ⟨["/b.py"], []⟩ ∧
      rootFolder.Lists twoFileHost "*.py" (some "a.??") ⟨["/b.py"], []⟩ := by
  have hfiles : twoFileHost.files.WellFormed := by decide +kernel
  obtain ⟨g, hg, ha, hb⟩ : ∃ g, Glob.read "a.??" = .ok g ∧
      ((rootFolder.relative? "/a.py").any g.excludes) = true ∧
      ((rootFolder.relative? "/b.py").any g.excludes) = false :=
    ⟨_, rfl, by decide +kernel, by decide +kernel⟩
  obtain ⟨hcall, hsettings, halone, hlists⟩ := rootFolder.list_excluding hfiles hg "*.py"
  have hwithout : rootFolder.without g.excludes ⟨["/a.py", "/b.py"], []⟩ = ⟨["/b.py"], []⟩ := by
    simp [without, ha, hb]
  have hlast := hsettings none
  rw [list_twoFileHost, Except.map, hwithout] at hcall hlast
  exact ⟨g, hfiles, hg, halone _ fun hstop => absurd hstop (by decide),
    hcall, hlast, hlists _ _ hcall⟩

end Workspace

end CommentTags
