import CommentTags.Proofs.Files.Names

/-!
Where paths lead after an entry was put into a tree: what was there stays, and a file that was
written is found on the way that led to it.
-/
namespace CommentTags.FileTree

variable {t u : FileTree} {names here pieces : List Text} {e : FileEntry} {p : Path}
  {followsLast : Bool} {links : Nat} {place : Place} {content : ByteArray}

theorem get?_put_self (h : names ≠ []) : (t.put names e).get? names = some e := by
  rw [get?, if_neg h]
  exact (Keyed.get?_insert _ _ _ _).trans (if_pos rfl)

theorem get?_put_of_ne {others : List Text} (h : others ≠ names) :
    (t.put names e).get? others = t.get? others := by
  rw [get?, get?]
  split
  · rfl
  · exact (Keyed.get?_insert _ _ _ _).trans (if_neg h)

/-! The steps of a way through a folder. -/

section

variable {piece : Text} {rest : List Text} (hhere : t.get? here = some .folder)
include hhere

theorem resolve_silent (hs : Path.isSilent piece = true) :
    t.resolve followsLast links here (piece :: rest) = t.resolve followsLast links here rest := by
  rw [resolve, if_neg (not_not_intro hhere), if_pos hs]

theorem resolve_parent :
    t.resolve followsLast links here (['.', '.'] :: rest) =
      t.resolve followsLast links here.dropLast rest := by
  rw [resolve, if_neg (not_not_intro hhere), if_neg (by decide), if_pos rfl]

variable (hs : ¬Path.isSilent piece = true) (hd : ¬piece = ['.', '.'])
include hs hd

theorem resolve_lastLink {target : Path} (hthere : t.get? (here ++ [piece]) = some (.link target))
    (hlast : (rest.isEmpty && !followsLast) = true) :
    t.resolve followsLast links here (piece :: rest) =
      .ok ⟨here ++ [piece], some (.link target)⟩ := by
  rw [resolve, if_neg (not_not_intro hhere), if_neg hs, if_neg hd]
  simp only [hthere, if_pos hlast]

theorem resolve_link {target : Path} (hthere : t.get? (here ++ [piece]) = some (.link target))
    (hlast : ¬(rest.isEmpty && !followsLast) = true) :
    t.resolve followsLast (links + 1) here (piece :: rest) =
      t.resolve followsLast links (if target.isAbsolute then [] else here)
        (target.pieces ++ rest) := by
  rw [resolve, if_neg (not_not_intro hhere), if_neg hs, if_neg hd]
  simp only [hthere, if_neg hlast]

theorem resolve_onto (hthere : t.get? (here ++ [piece]) = some e)
    (he : ∀ target, e ≠ .link target) :
    t.resolve followsLast links here (piece :: rest) =
      t.resolve followsLast links (here ++ [piece]) rest := by
  rw [resolve, if_neg (not_not_intro hhere), if_neg hs, if_neg hd]
  cases e with
  | link target => exact (he target rfl).elim
  | folder => simp only [hthere]
  | file content => simp only [hthere]

theorem resolve_missing (hthere : t.get? (here ++ [piece]) = none) :
    t.resolve followsLast links here [piece] = .ok ⟨here ++ [piece], none⟩ := by
  rw [resolve, if_neg (not_not_intro hhere), if_neg hs, if_neg hd]
  simp only [hthere, List.isEmpty_nil, if_true]

end

/-- Names lead through folders to the entry under them, if that is no link. -/
theorem resolve_direct (hnames : ∀ name ∈ names, Path.IsName name ∧ name ≠ ['.', '.'])
    (hfolders : ∀ n < names.length, t.get? (here ++ names.take n) = some .folder)
    (hlink : ∀ target, t.get? (here ++ names) ≠ some (.link target)) :
    t.resolve followsLast links here names = .ok ⟨here ++ names, t.get? (here ++ names)⟩ := by
  induction names generalizing here with
  | nil => rw [resolve, List.append_nil]
  | cons name rest ih =>
    obtain ⟨⟨hsilent, -⟩, hdots⟩ := hnames name List.mem_cons_self
    have hsilent' : ¬Path.isSilent name = true := Bool.eq_false_iff.mp hsilent
    have hhere : t.get? here = some .folder := by
      have hfirst := hfolders 0 (Nat.succ_pos rest.length)
      rwa [List.take_zero, List.append_nil] at hfirst
    have hsplit : ∀ way, here ++ name :: way = here ++ [name] ++ way := by simp
    have hrest : ∀ n < rest.length, t.get? (here ++ [name] ++ rest.take n) = some .folder := by
      intro n hn
      rw [← hsplit]
      exact hfolders (n + 1) (Nat.succ_lt_succ hn)
    rw [hsplit] at hlink ⊢
    cases rest with
    | nil =>
      rw [List.append_nil] at hlink ⊢
      cases hthere : t.get? (here ++ [name]) with
      | none => exact resolve_missing hhere hsilent' hdots hthere
      | some e =>
        have he : ∀ target, e ≠ .link target := fun target hl => hlink target (hl ▸ hthere)
        rw [resolve_onto hhere hsilent' hdots hthere he, resolve, hthere]
    | cons next rest =>
      have hfolder : t.get? (here ++ [name]) = some .folder := by
        have hnext := hrest 0 (Nat.succ_pos rest.length)
        rwa [List.take_zero, List.append_nil] at hnext
      rw [resolve_onto hhere hsilent' hdots hfolder fun target hl => by cases hl]
      exact ih (fun n hn => hnames n (List.mem_cons_of_mem name hn)) hrest hlink

/-- The path of some names leads through folders to their entry, if that is no link. -/
theorem place_ofNames (hne : names ≠ [])
    (hnames : ∀ name ∈ names, Path.IsName name ∧ name ≠ ['.', '.'])
    (hfolders : ∀ n < names.length, t.get? (names.take n) = some .folder)
    (hlink : ∀ target, t.get? names ≠ some (.link target)) :
    t.place followsLast (Path.ofNames names) = .ok ⟨names, t.get? names⟩ := by
  rw [place, Path.pieces_ofNames (fun name hn => (hnames name hn).1) hne,
    resolve_silent rfl rfl]
  exact resolve_direct hnames hfolders hlink

theorem entry_ofNames (hne : names ≠ [])
    (hnames : ∀ name ∈ names, Path.IsName name ∧ name ≠ ['.', '.'])
    (hfolders : ∀ n < names.length, t.get? (names.take n) = some .folder)
    (hlink : ∀ target, t.get? names ≠ some (.link target)) :
    t.entry (Path.ofNames names) =
      match t.get? names with
      | some e => .ok e
      | none => .error .notFound := by
  rw [entry, place_ofNames hne hnames hfolders hlink]
  cases t.get? names <;> rfl

/-- A way leads to a place with the entry that is there. -/
theorem resolve_entry (h : t.resolve followsLast links here pieces = .ok place) :
    place.entry = t.get? place.names := by
  fun_induction FileTree.resolve t followsLast links here pieces
  case case1 =>
    cases h
    rfl
  case case2 => cases h
  case case3 ih => exact ih h
  case case4 ih => exact ih h
  case case5 hthere _ =>
    cases h
    exact hthere.symm
  case case6 => cases h
  case case7 ih => exact ih h
  case case8 ih => exact ih h
  case case9 hthere _ =>
    cases h
    exact hthere.symm
  case case10 => cases h

/-- An entry in the place of none or of a file changes no way, apart from what is at its end. -/
theorem resolve_put (hfolder : t.get? names ≠ some .folder)
    (hlink : ∀ target, t.get? names ≠ some (.link target)) (he : ∀ target, e ≠ .link target)
    (h : t.resolve followsLast links here pieces = .ok place) :
    (t.put names e).resolve followsLast links here pieces =
      .ok ⟨place.names, (t.put names e).get? place.names⟩ := by
  have hnames : names ≠ [] := by
    rintro rfl
    exact hfolder rfl
  have hkeep : ∀ {others o}, t.get? others = some o → t.get? names ≠ some o →
      (t.put names e).get? others = some o := by
    intro others o ho hne
    have hother : others ≠ names := by
      rintro rfl
      exact hne ho
    rw [get?_put_of_ne hother, ho]
  -- The way goes through folders and links, which the new entry does not stand for, so it can
  -- differ only where it comes to `names`: at an entry or at the end.
  fun_induction FileTree.resolve t followsLast links here pieces
  case case1 =>
    cases h
    rw [resolve]
  case case2 => cases h
  case case3 hhere hs ih =>
    rw [resolve_silent (hkeep (Decidable.of_not_not hhere) hfolder) hs]
    exact ih h
  case case4 hhere hs ih =>
    rw [resolve_parent (hkeep (Decidable.of_not_not hhere) hfolder)]
    exact ih h
  case case5 hhere hs hd there target hthere hlast =>
    cases h
    have hkept := hkeep hthere (hlink target)
    rw [resolve_lastLink (hkeep (Decidable.of_not_not hhere) hfolder) hs hd hkept hlast, hkept]
  case case6 => cases h
  case case7 hhere hs hd there target hthere hlast links start ih =>
    rw [resolve_link (hkeep (Decidable.of_not_not hhere) hfolder) hs hd
      (hkeep hthere (hlink target)) hlast]
    exact ih h
  case case8 hhere hs hd there o ho hthere ih =>
    obtain ⟨o', hthere', ho'⟩ : ∃ o', (t.put names e).get? there = some o' ∧
        ∀ target, o' ≠ .link target := by
      by_cases hother : there = names
      · exact ⟨e, hother ▸ get?_put_self (hother ▸ hnames), he⟩
      · exact ⟨o, (get?_put_of_ne hother).trans hthere, ho⟩
    rw [resolve_onto (hkeep (Decidable.of_not_not hhere) hfolder) hs hd hthere' ho']
    exact ih h
  case case9 hhere hs hd there hthere hlast =>
    cases h
    have hrest := List.isEmpty_iff.mp hlast
    have hfolder' := hkeep (Decidable.of_not_not hhere) hfolder
    subst hrest
    by_cases hother : there = names
    · have hthere' : (t.put names e).get? there = some e :=
        hother ▸ get?_put_self (hother ▸ hnames)
      rw [resolve_onto hfolder' hs hd hthere' he, resolve]
    · have hthere' : (t.put names e).get? there = none := (get?_put_of_ne hother).trans hthere
      rw [resolve_missing hfolder' hs hd hthere', hthere']
  case case10 => cases h

/-- No link is on the way of the names. -/
def IsDirect (t : FileTree) (names : List Text) : Prop :=
  ∀ way, way <+: names → ∀ target, t.get? way ≠ some (.link target)

theorem isDirect_nil (t : FileTree) : t.IsDirect [] := by
  intro way hway target hlink
  rw [List.prefix_nil.mp hway] at hlink
  cases hlink

theorem IsDirect.dropLast (h : t.IsDirect here) : t.IsDirect here.dropLast :=
  fun way hway => h way (hway.trans (List.dropLast_prefix here))

theorem IsDirect.concat (h : t.IsDirect here) {piece : Text}
    (hthere : ∀ target, t.get? (here ++ [piece]) ≠ some (.link target)) :
    t.IsDirect (here ++ [piece]) := by
  intro way hway
  rcases List.prefix_concat_iff.mp hway with rfl | hway
  · exact hthere
  · exact h way hway

/-- Where links are followed to the end, no link is at the end. -/
theorem IsDirect.resolve (hhere : t.IsDirect here)
    (h : t.resolve true links here pieces = .ok place) : t.IsDirect place.names := by
  fun_induction FileTree.resolve t true links here pieces
  case case1 =>
    cases h
    exact hhere
  case case2 => cases h
  case case3 ih => exact ih hhere h
  case case4 ih => exact ih hhere.dropLast h
  case case5 hlast => simp at hlast
  case case6 => cases h
  case case7 start ih =>
    refine ih ?_ h
    simp only [start]
    split
    · exact isDirect_nil t
    · exact hhere
  case case8 ho hthere ih =>
    refine ih (hhere.concat fun target hlink => ?_) h
    rw [hthere] at hlink
    exact ho target (Option.some.inj hlink)
  case case9 hthere _ =>
    cases h
    refine hhere.concat fun target hlink => ?_
    rw [hthere] at hlink
    cases hlink
  case case10 => cases h

/-! Writing and reading. -/

/-- A file that was written is what its path leads to. -/
theorem entry_of_writeFile (h : t.writeFile p content = .ok u) :
    u.entry p = .ok (.file content) := by
  rw [writeFile] at h
  obtain ⟨place, hplace, h⟩ := exists_of_bind_eq_ok h
  have hentry := resolve_entry hplace
  have hdirect := (isDirect_nil t).resolve hplace
  split at h
  case h_1 => cases h
  case h_2 hfolder =>
    cases h
    rw [hentry] at hfolder
    have hnames : place.names ≠ [] := by
      intro hnil
      rw [hnil] at hfolder
      exact hfolder rfl
    have hput := resolve_put (e := .file content) hfolder (hdirect _ (List.prefix_refl _))
      (fun target hc => by cases hc) hplace
    rw [get?_put_self hnames] at hput
    rw [entry, FileTree.place, hput]
    rfl

theorem decode_toUTF8 (text : Text) : decode (String.ofList text).toUTF8 = .ok text := by
  have hvalid : String.fromUTF8? (String.ofList text).toUTF8 = some (String.ofList text) :=
    dif_pos (String.ofList text).isValidUTF8
  rw [decode, hvalid]
  exact congrArg Except.ok String.toList_ofList

theorem readText_of_writeText {text : Text} (h : t.writeText p text = .ok u) :
    u.readText p = .ok text := by
  have hentry := entry_of_writeFile h
  rw [readText, hentry]
  exact decode_toUTF8 text

/-- Whatever a path leads to is there after an entry was put where none was. -/
theorem entry_put_of_none {new : FileEntry} (hnone : t.get? names = none)
    (hnew : ∀ target, new ≠ .link target) (h : t.entry p = .ok e) :
    (t.put names new).entry p = .ok e := by
  rw [entry] at h
  obtain ⟨place, hplace, h⟩ := exists_of_bind_eq_ok h
  have hentry := resolve_entry hplace
  have hfolder : t.get? names ≠ some .folder := by simp [hnone]
  have hput := resolve_put hfolder (by simp [hnone]) hnew hplace
  split at h
  case h_1 o ho =>
    cases h
    have hother : place.names ≠ names := by
      rintro hsame
      rw [hentry, hsame, hnone] at ho
      cases ho
    rw [get?_put_of_ne hother, ← hentry, ho] at hput
    rw [entry, FileTree.place, hput]
    rfl
  case h_2 => cases h

/-- Whatever a path leads to is there after folders were made. -/
theorem entry_of_makeFoldersFrom {before : List Text}
    (h : makeFoldersFrom t before pieces = .ok u) (he : t.entry p = .ok e) : u.entry p = .ok e := by
  induction pieces generalizing t before with
  | nil =>
    cases h
    exact he
  | cons piece rest ih =>
    rw [makeFoldersFrom] at h
    obtain ⟨place, hplace, h⟩ := exists_of_bind_eq_ok h
    split at h
    case h_1 => exact ih h he
    case h_2 => cases h
    case h_3 hnone =>
      obtain ⟨own, -, h⟩ := exists_of_bind_eq_ok h
      split at h
      · cases h
      · refine ih h (entry_put_of_none ?_ (fun target hf => by cases hf) he)
        rw [← resolve_entry hplace]
        exact hnone

theorem entry_of_makeFolders {q : Path} (h : t.makeFolders q = .ok u) (he : t.entry p = .ok e) :
    u.entry p = .ok e :=
  entry_of_makeFoldersFrom h he

end CommentTags.FileTree
