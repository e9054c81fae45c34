import CommentTags.Files.Walk
import CommentTags.Proofs.Files.WellFormed

/-!
The walk through what is below a folder. It comes to each file once, by the names that lead to it,
and lists nothing but files; the globs of the settings make no difference to it.
-/
namespace CommentTags

namespace FileTree

variable {t : FileTree} {settings : ScanSettings} {fuel : Nat} {levels : IgnoreLevels}
  {folder : Visited} {way : List Visited} {names : List Text} {name : Text} {p : Path}

/-- The last of the names under which an entry is, if it is in the folder. -/
theorem child?_eq_some_iff {k : List Text} :
    (match k.getLast? with
      | some last => if k.dropLast = names then some last else none
      | none => none) = some name ↔ k = names ++ [name] := by
  constructor
  · intro h
    cases hlast : k.getLast? with
    | none =>
      rw [hlast] at h
      cases h
    | some last =>
      simp only [hlast, Option.ite_none_right_eq_some, Option.some.injEq] at h
      obtain ⟨rfl, rfl⟩ := h
      exact (List.dropLast_append_getLast? _ hlast).symm
  · rintro rfl
    simp

theorem mem_children_iff : name ∈ t.children names ↔ names ++ [name] ∈ t.entries.keys := by
  rw [children, List.mem_filterMap]
  constructor
  · rintro ⟨k, hk, hname⟩
    rwa [← child?_eq_some_iff.mp hname]
  · intro hk
    exact ⟨_, hk, child?_eq_some_iff.mpr rfl⟩

theorem WellNamed.isName_of_mem_children (ht : t.WellNamed) (h : name ∈ t.children names) :
    Path.IsName name :=
  ht _ (mem_children_iff.mp h) name List.mem_concat_self

theorem WellFormed.isPlaced_of_mem_children (ht : t.WellFormed) (h : name ∈ t.children names) :
    t.IsPlaced (names ++ [name]) :=
  ht _ (mem_children_iff.mp h)

theorem nodup_children (t : FileTree) (names : List Text) : (t.children names).Nodup := by
  apply List.Nodup.filterMap _ t.entries.nodup_keys
  intro j k name hj hk
  exact (child?_eq_some_iff.mp hj).trans (child?_eq_some_iff.mp hk).symm

/-! One name after the other. -/

/-- What the walk finds under one name of a folder. -/
def walkName (t : FileTree) (settings : ScanSettings) (fuel : Nat) (levels : IgnoreLevels)
    (folder : Visited) (way : List Visited) (name : Text) : Listing :=
  let shown := folder.shown ++ [name]
  match t.classify settings (folder :: way) shown (folder.actual ++ [name]) with
  | .error f => ⟨[], [f]⟩
  | .ok ⟨actual, some .folder⟩ =>
    if isLeftOut settings levels shown true then .empty
    else
      let own := (IgnoreLevel.ofFolder t settings.gitIgnore shown).1
      t.walkFolder settings fuel (levels.enter own) (⟨shown, actual⟩ :: folder :: way)
  | .ok ⟨_, some (.file _)⟩ =>
    if isLeftOut settings levels shown false then .empty else .ofFile (Path.ofNames shown)
  | .ok _ => .empty

theorem walkFolder_succ :
    t.walkFolder settings (fuel + 1) levels (folder :: way) =
      .concat ((t.children folder.actual).map (t.walkName settings fuel levels folder way)) := by
  rw [walkFolder]
  rfl

theorem files_walkFolder_succ :
    (t.walkFolder settings (fuel + 1) levels (folder :: way)).files =
      (t.children folder.actual).flatMap fun name =>
        (t.walkName settings fuel levels folder way name).files := by
  rw [walkFolder_succ, Listing.concat, List.flatMap_map]

/-- Under a name there is nothing to list, or a folder that is walked on, or one file. -/
theorem walkName_cases (t : FileTree) (settings : ScanSettings) (fuel : Nat)
    (levels : IgnoreLevels) (folder : Visited) (way : List Visited) (name : Text) :
    let shown := folder.shown ++ [name]
    let found := t.classify settings (folder :: way) shown (folder.actual ++ [name])
    let files := (t.walkName settings fuel levels folder way name).files
    files = [] ∨
      (∃ actual levels', found = .ok ⟨actual, some .folder⟩ ∧
        files = (t.walkFolder settings fuel levels' (⟨shown, actual⟩ :: folder :: way)).files) ∨
      ∃ actual content, found = .ok ⟨actual, some (.file content)⟩ ∧
        files = [Path.ofNames shown] := by
  intro shown found files
  simp only [files, walkName]
  split
  case h_1 => exact .inl rfl
  case h_2 actual hfound =>
    split
    · exact .inl rfl
    · exact .inr (.inl ⟨actual, _, hfound, rfl⟩)
  case h_3 actual content hfound =>
    split
    · exact .inl rfl
    · exact .inr (.inr ⟨actual, content, hfound, rfl⟩)
  case h_4 => exact .inl rfl

/-- What goes on from each folder to the folders in it holds of all folders on the walk; so
whatever holds of a file in such a folder holds of all files that are listed. -/
theorem forall_mem_walkFolder (Reached : Visited → Prop) (P : Path → Prop)
    (hfolder : ∀ {folder way name actual}, Reached folder → name ∈ t.children folder.actual →
      t.classify settings (folder :: way) (folder.shown ++ [name]) (folder.actual ++ [name]) =
        .ok ⟨actual, some .folder⟩ → Reached ⟨folder.shown ++ [name], actual⟩)
    (hfile : ∀ {folder way name actual content}, Reached folder →
      name ∈ t.children folder.actual →
      t.classify settings (folder :: way) (folder.shown ++ [name]) (folder.actual ++ [name]) =
        .ok ⟨actual, some (.file content)⟩ → P (Path.ofNames (folder.shown ++ [name])))
    (h : Reached folder) :
    ∀ p ∈ (t.walkFolder settings fuel levels (folder :: way)).files, P p := by
  induction fuel generalizing levels folder way with
  | zero =>
    intro p hp
    cases hp
  | succ fuel ih =>
    intro p hp
    rw [files_walkFolder_succ] at hp
    obtain ⟨name, hname, hp⟩ := List.mem_flatMap.mp hp
    rcases t.walkName_cases settings fuel levels folder way name with
      hnone | ⟨actual, levels', hfound, hfiles⟩ | ⟨actual, content, hfound, hfiles⟩
    · rw [hnone] at hp
      cases hp
    · rw [hfiles] at hp
      exact ih (hfolder h hname hfound) p hp
    · rw [hfiles, List.mem_singleton] at hp
      rw [hp]
      exact hfile h hname hfound

theorem files_walk (t : FileTree) (settings : ScanSettings) (globalIgnore : Path)
    (names : List Text) : ∃ levels, (t.walk settings globalIgnore names).files =
      (t.walkFolder settings t.maxWay levels [⟨names, names⟩]).files := by
  have hflaws : ∀ flaws, (flawListing flaws).files = [] := by
    intro flaws
    cases flaws <;> rfl
  rw [walk]
  exact ⟨_, (congrArg (· ++ _) (hflaws _)).trans (List.nil_append _)⟩

/-- All that is listed is below the folder, under names of the tree. -/
theorem exists_of_mem_walkFolder (ht : t.WellNamed)
    (h : p ∈ (t.walkFolder settings fuel levels (folder :: way)).files) :
    ∃ more, p = Path.ofNames (folder.shown ++ more) ∧ ∀ name ∈ more, Path.IsName name := by
  have hnext : ∀ {more name actual}, (∀ n ∈ more, Path.IsName n) → name ∈ t.children actual →
      ∀ n ∈ more ++ [name], Path.IsName n := fun hmore hname =>
    Path.isName_of_mem_append hmore (ht.isName_of_mem_children hname)
  refine forall_mem_walkFolder
    (fun v => ∃ more, v.shown = folder.shown ++ more ∧ ∀ n ∈ more, Path.IsName n)
    (fun p => ∃ more, p = Path.ofNames (folder.shown ++ more) ∧ ∀ n ∈ more, Path.IsName n)
    ?_ ?_ ⟨[], (List.append_nil _).symm, List.forall_mem_nil _⟩ p h
  · rintro v way name actual ⟨more, hshown, hmore⟩ hname -
    refine ⟨more ++ [name], ?_, hnext hmore hname⟩
    rw [hshown, List.append_assoc]
  · rintro v way name actual content ⟨more, hshown, hmore⟩ hname -
    refine ⟨more ++ [name], ?_, hnext hmore hname⟩
    rw [hshown, List.append_assoc]

theorem walk_names (ht : t.WellNamed) (settings : ScanSettings) {globalIgnore : Path}
    (hnames : ∀ name ∈ names, Path.IsName name)
    (h : p ∈ (t.walk settings globalIgnore names).files) :
    ∃ shown, (∀ name ∈ shown, Path.IsName name) ∧ p = Path.ofNames shown := by
  obtain ⟨levels, hfiles⟩ := t.files_walk settings globalIgnore names
  rw [hfiles] at h
  obtain ⟨more, hp, hmore⟩ := exists_of_mem_walkFolder ht h
  exact ⟨names ++ more, List.forall_mem_append.mpr ⟨hnames, hmore⟩, hp⟩

/-! Each file once. -/

theorem exists_of_mem_walkName (ht : t.WellNamed)
    (h : p ∈ (t.walkName settings fuel levels folder way name).files) :
    ∃ more, p = Path.ofNames (folder.shown ++ name :: more) ∧ ∀ n ∈ more, Path.IsName n := by
  rcases t.walkName_cases settings fuel levels folder way name with
    hnone | ⟨actual, levels', -, hfiles⟩ | ⟨actual, content, -, hfiles⟩
  · rw [hnone] at h
    cases h
  · rw [hfiles] at h
    obtain ⟨more, hp, hmore⟩ := exists_of_mem_walkFolder ht h
    rw [List.append_assoc] at hp
    exact ⟨more, hp, hmore⟩
  · rw [hfiles, List.mem_singleton] at h
    exact ⟨[], h, List.forall_mem_nil _⟩

/-- What is found under two names of a folder differs in these names. -/
theorem nodup_walkFolder (ht : t.WellNamed) (hshown : ∀ name ∈ folder.shown, Path.IsName name) :
    (t.walkFolder settings fuel levels (folder :: way)).files.Nodup := by
  induction fuel generalizing levels folder way with
  | zero => exact List.nodup_nil
  | succ fuel ih =>
    rw [files_walkFolder_succ, List.nodup_flatMap]
    constructor
    · intro name hname
      rcases t.walkName_cases settings fuel levels folder way name with
        hnone | ⟨actual, levels', -, hfiles⟩ | ⟨actual, content, -, hfiles⟩
      · rw [hnone]
        exact List.nodup_nil
      · rw [hfiles]
        exact ih (Path.isName_of_mem_append hshown (ht.isName_of_mem_children hname))
      · rw [hfiles]
        exact List.nodup_singleton _
    · refine (t.nodup_children folder.actual).imp_of_mem ?_
      intro first second hfirst hsecond hne p hp hp'
      obtain ⟨more, rfl, hmore⟩ := exists_of_mem_walkName ht hp
      obtain ⟨others, he, hothers⟩ := exists_of_mem_walkName ht hp'
      have hnames : ∀ {name more}, name ∈ t.children folder.actual →
          (∀ n ∈ more, Path.IsName n) → ∀ n ∈ folder.shown ++ name :: more, Path.IsName n :=
        fun hname hmore => List.forall_mem_append.mpr
          ⟨hshown, List.forall_mem_cons.mpr ⟨ht.isName_of_mem_children hname, hmore⟩⟩
      have hsame := Path.ofNames_inj (hnames hfirst hmore) (hnames hsecond hothers) he
      exact hne (List.cons.inj (List.append_cancel_left hsame)).1

theorem nodup_walk (ht : t.WellNamed) (settings : ScanSettings) (globalIgnore : Path)
    (hnames : ∀ name ∈ names, Path.IsName name) :
    (t.walk settings globalIgnore names).files.Nodup := by
  obtain ⟨levels, hfiles⟩ := t.files_walk settings globalIgnore names
  rw [hfiles]
  exact nodup_walkFolder ht hnames

/-! Only files. -/

theorem place_eq_resolve {followsLast : Bool} (h : ∀ name ∈ names, Path.IsName name) :
    t.place followsLast (Path.ofNames names) = t.resolve followsLast maxLinks [] names := by
  cases names with
  | nil =>
    have hroot : (Path.ofNames []).pieces = [[], []] := rfl
    rw [place, hroot, resolve_silent rfl rfl, resolve_silent rfl rfl]
  | cons name names =>
    rw [place, Path.pieces_ofNames h (List.cons_ne_nil name names), resolve_silent rfl rfl]

/-- A way to a folder goes on to what is in the folder, if that is no link. -/
theorem resolve_concat {links : Nat} {here pieces : List Text} {piece : Text} {e : FileEntry}
    (h : t.resolve true links here pieces = .ok ⟨names, some .folder⟩)
    (hs : ¬Path.isSilent piece = true) (hd : ¬piece = ['.', '.'])
    (hthere : t.get? (names ++ [piece]) = some e) (he : ∀ target, e ≠ .link target) :
    t.resolve true links here (pieces ++ [piece]) = .ok ⟨names ++ [piece], some e⟩ := by
  -- Each step is taken as before; only the end, in the folder, now has one step more.
  fun_induction FileTree.resolve t true links here pieces
  case case1 =>
    obtain ⟨rfl, hfolder⟩ := Place.mk.inj (Except.ok.inj h)
    rw [List.nil_append, resolve_onto hfolder hs hd hthere he, resolve, hthere]
  case case2 => cases h
  case case3 hfolder hsilent ih =>
    rw [List.cons_append, resolve_silent (Decidable.of_not_not hfolder) hsilent]
    exact ih h
  case case4 hfolder _ ih =>
    rw [List.cons_append, resolve_parent (Decidable.of_not_not hfolder)]
    exact ih h
  case case5 hlast => simp at hlast
  case case6 => cases h
  case case7 hfolder hloud hdots there target htarget hlast links start ih =>
    rw [List.cons_append, resolve_link (Decidable.of_not_not hfolder) hloud hdots htarget (by simp),
      ← List.append_assoc]
    exact ih h
  case case8 hfolder hloud hdots there o hlink hentry ih =>
    rw [List.cons_append, resolve_onto (Decidable.of_not_not hfolder) hloud hdots hentry hlink]
    exact ih h
  case case9 => cases (Place.mk.inj (Except.ok.inj h)).2
  case case10 => cases h

/-- The names by which a folder was reached lead to it. -/
def LeadsTo (t : FileTree) (v : Visited) : Prop :=
  t.resolve true maxLinks [] v.shown = .ok ⟨v.actual, some .folder⟩

/-- What a name in a folder is found to be is what the name leads to. -/
theorem resolve_of_classify (ht : t.WellFormed) {actual : List Text} {e : FileEntry}
    (hleads : t.LeadsTo folder) (hshown : ∀ n ∈ folder.shown, Path.IsName n)
    (hname : name ∈ t.children folder.actual)
    (h : t.classify settings way (folder.shown ++ [name]) (folder.actual ++ [name]) =
      .ok ⟨actual, some e⟩) (he : ∀ target, e ≠ .link target) :
    t.resolve true maxLinks [] (folder.shown ++ [name]) = .ok ⟨actual, some e⟩ := by
  obtain ⟨hpiece, hdots⟩ := (ht.isPlaced_of_mem_children hname).1 name List.mem_concat_self
  rw [classify] at h
  split at h
  case h_1 target hlink =>
    split at h
    · cases h
      exact (he target rfl).elim
    · -- The link was followed, and by the names of the whole way.
      rw [← place_eq_resolve (Path.isName_of_mem_append hshown hpiece)]
      cases hplace : t.place true (Path.ofNames (folder.shown ++ [name])) with
      | error f =>
        simp only [hplace] at h
        cases h
      | ok place =>
        simp only [hplace] at h
        split at h
        case h_1 => cases h
        case h_2 =>
          split at h
          · cases h
          · exact congrArg Except.ok (Except.ok.inj h)
        case h_3 => exact congrArg Except.ok (Except.ok.inj h)
  case h_2 =>
    obtain ⟨rfl, hthere⟩ := Place.mk.inj (Except.ok.inj h)
    exact resolve_concat hleads (Bool.eq_false_iff.mp hpiece.1) hdots hthere he

theorem isFile_of_resolve {content : ByteArray} {there : List Text}
    (hnames : ∀ name ∈ names, Path.IsName name)
    (h : t.resolve true maxLinks [] names = .ok ⟨there, some (.file content)⟩) :
    t.isFile (Path.ofNames names) = true := by
  rw [isFile, entry, place_eq_resolve hnames, h]
  rfl

/-- All that is listed below a folder that its names lead to is a file. -/
theorem isFile_of_mem_walkFolder (ht : t.WellFormed) (hleads : t.LeadsTo folder)
    (hshown : ∀ name ∈ folder.shown, Path.IsName name)
    (h : p ∈ (t.walkFolder settings fuel levels (folder :: way)).files) : t.isFile p = true := by
  have hnext : ∀ {v : Visited} {name}, (∀ n ∈ v.shown, Path.IsName n) →
      name ∈ t.children v.actual → ∀ n ∈ v.shown ++ [name], Path.IsName n := fun hshown hname =>
    Path.isName_of_mem_append hshown (ht.wellNamed.isName_of_mem_children hname)
  refine forall_mem_walkFolder
    (fun v => t.LeadsTo v ∧ ∀ n ∈ v.shown, Path.IsName n) (fun p => t.isFile p = true)
    ?_ ?_ ⟨hleads, hshown⟩ p h
  · rintro v way name actual ⟨hleads, hshown⟩ hname hfound
    exact ⟨resolve_of_classify ht hleads hshown hname hfound (by rintro _ ⟨⟩), hnext hshown hname⟩
  · rintro v way name actual content ⟨hleads, hshown⟩ hname hfound
    have hfile := resolve_of_classify ht hleads hshown hname hfound (by rintro _ ⟨⟩)
    exact isFile_of_resolve (hnext hshown hname) hfile

theorem isFile_of_mem_walk (ht : t.WellFormed) {settings : ScanSettings} {globalIgnore : Path}
    (hnames : ∀ name ∈ names, Path.IsName name)
    (h : p ∈ (t.walk settings globalIgnore names).files) : t.isFile p = true := by
  obtain ⟨levels, hfiles⟩ := t.files_walk settings globalIgnore names
  rw [hfiles] at h
  by_cases hfolder : t.get? names = some .folder
  · have hleads : t.LeadsTo ⟨names, names⟩ := ht.resolve_folder hfolder
    exact isFile_of_mem_walkFolder ht hleads hnames h
  · -- Nothing is in what is no folder.
    have hnone : t.children names = [] := by
      refine List.eq_nil_iff_forall_not_mem.mpr fun name hname => hfolder ?_
      have hin := (ht.isPlaced_of_mem_children hname).2
      rwa [List.dropLast_concat] at hin
    cases hway : t.maxWay with
    | zero =>
      rw [hway] at h
      cases h
    | succ fuel =>
      rw [hway, files_walkFolder_succ, hnone] at h
      cases h

/-! The settings that the walk reads. -/

theorem walkFolder_withExcluded (globs : List String) :
    t.walkFolder { settings with excluded := globs } fuel levels way =
      t.walkFolder settings fuel levels way := by
  induction fuel generalizing levels way with
  | zero => rfl
  | succ fuel ih =>
    cases way with
    | nil => rfl
    | cons folder way =>
      have hname : t.walkName { settings with excluded := globs } fuel levels folder way =
          t.walkName settings fuel levels folder way := by
        funext name
        simp only [walkName, ih]
        rfl
      rw [walkFolder_succ, walkFolder_succ, hname]

theorem walk_withExcluded (t : FileTree) (settings : ScanSettings) (globs : List String)
    (globalIgnore : Path) (names : List Text) :
    t.walk { settings with excluded := globs } globalIgnore names =
      t.walk settings globalIgnore names := by
  rw [walk, walk]
  simp only [walkFolder_withExcluded]

end FileTree

end CommentTags
