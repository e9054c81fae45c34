import Mathlib.Data.List.Induction
import CommentTags.Proofs.Files.Put
import CommentTags.Proofs.Keyed

/-!
Trees in which every entry stands in a folder, under a name of its own. Making and removing entries
leads from such a tree to another one, and the names of an entry lead through folders to it.
-/
namespace CommentTags.FileTree

variable {t u : FileTree} {names here pieces : List Text} {e : FileEntry} {p : Path}
  {followsLast : Bool} {links : Nat} {place : Place}

/-- Something may be under these names: they are names in a path, and all but the last are those of
a folder. -/
def IsPlaced (t : FileTree) (names : List Text) : Prop :=
  (∀ name ∈ names, Path.IsName name ∧ name ≠ ['.', '.']) ∧ t.get? names.dropLast = some .folder

instance (t : FileTree) (names : List Text) : Decidable (t.IsPlaced names) :=
  inferInstanceAs (Decidable (_ ∧ _))

def WellFormed (t : FileTree) : Prop := ∀ k ∈ t.entries.keys, t.IsPlaced k

instance (t : FileTree) : Decidable t.WellFormed :=
  inferInstanceAs (Decidable (∀ k ∈ t.entries.keys, t.IsPlaced k))

theorem isPlaced_nil (t : FileTree) : t.IsPlaced [] :=
  ⟨List.forall_mem_nil _, rfl⟩

theorem WellFormed.wellNamed (ht : t.WellFormed) : t.WellNamed :=
  fun k hk name hname => ((ht k hk).1 name hname).1

theorem WellFormed.isPlaced (ht : t.WellFormed) (h : t.get? names = some e) :
    t.IsPlaced names := by
  rw [get?] at h
  split at h
  case isTrue hnil =>
    rw [hnil]
    exact t.isPlaced_nil
  case isFalse => exact ht names (Keyed.mem_keys_iff.mpr ⟨e, h⟩)

theorem WellFormed.get?_take (ht : t.WellFormed) (h : t.get? names = some .folder) (n : Nat) :
    t.get? (names.take n) = some .folder := by
  induction names using List.reverseRecOn with
  | nil => rwa [List.take_nil]
  | append_singleton around name ih =>
    rcases Nat.lt_or_ge around.length n with hn | hn
    · rwa [List.take_of_length_le (by rw [List.length_append, List.length_singleton]; exact hn)]
    · have haround := (ht.isPlaced h).2
      rw [List.dropLast_concat] at haround
      rw [List.take_append_of_le_length hn]
      exact ih haround

/-- The names of a folder lead to it. -/
theorem WellFormed.resolve_folder (ht : t.WellFormed) (h : t.get? names = some .folder) :
    t.resolve followsLast links [] names = .ok ⟨names, some .folder⟩ := by
  have hlink : ∀ target, t.get? names ≠ some (.link target) := by
    rw [h]
    rintro target ⟨⟩
  have hdirect : t.resolve followsLast links [] names = .ok ⟨names, t.get? names⟩ :=
    resolve_direct (ht.isPlaced h).1 (fun n _ => ht.get?_take h n) hlink
  rwa [h] at hdirect

/-! Changes of a tree. -/

theorem wellFormed_empty : empty.WellFormed := by
  intro k hk
  cases hk

theorem IsPlaced.concat (ht : t.WellFormed) (hhere : t.get? here = some .folder) {piece : Text}
    (hslash : '/' ∉ piece) (hs : ¬Path.isSilent piece = true) (hd : ¬piece = ['.', '.']) :
    t.IsPlaced (here ++ [piece]) := by
  refine ⟨?_, by rwa [List.dropLast_concat]⟩
  intro name hname
  rcases List.mem_append.mp hname with hname | hname
  · exact (ht.isPlaced hhere).1 name hname
  · rw [List.mem_singleton.mp hname]
    exact ⟨⟨eq_false_of_ne_true hs, hslash⟩, hd⟩

/-- Wherever a path leads, something may be there. -/
theorem WellFormed.isPlaced_of_resolve (ht : t.WellFormed) (hhere : t.IsPlaced here)
    (hpieces : ∀ piece ∈ pieces, '/' ∉ piece)
    (h : t.resolve followsLast links here pieces = .ok place) : t.IsPlaced place.names := by
  -- One case for each way on: the end, a folder that is none, a silent piece, the folder around,
  -- a link that is not followed, one too many, one that is followed, an entry, and none.
  fun_induction FileTree.resolve t followsLast links here pieces
  case case1 =>
    cases h
    exact hhere
  case case2 => cases h
  case case3 ih => exact ih hhere (List.forall_mem_of_forall_mem_cons hpieces) h
  case case4 ih => exact ih (ht.isPlaced hhere.2) (List.forall_mem_of_forall_mem_cons hpieces) h
  case case5 hfolder hs hd _ _ _ _ =>
    cases h
    exact .concat ht (Decidable.of_not_not hfolder) (hpieces _ List.mem_cons_self) hs hd
  case case6 => cases h
  case case7 start ih =>
    refine ih ?_ ?_ h
    · simp only [start]
      split
      · exact t.isPlaced_nil
      · exact hhere
    · intro piece hpiece
      rcases List.mem_append.mp hpiece with hpiece | hpiece
      · exact Text.not_mem_of_mem_fields hpiece
      · exact List.forall_mem_of_forall_mem_cons hpieces piece hpiece
  case case8 hfolder hs hd _ _ _ _ ih =>
    refine ih ?_ (List.forall_mem_of_forall_mem_cons hpieces) h
    exact .concat ht (Decidable.of_not_not hfolder) (hpieces _ List.mem_cons_self) hs hd
  case case9 hfolder hs hd _ _ _ =>
    cases h
    exact .concat ht (Decidable.of_not_not hfolder) (hpieces _ List.mem_cons_self) hs hd
  case case10 => cases h

theorem WellFormed.isPlaced_of_place (ht : t.WellFormed) (h : t.place followsLast p = .ok place) :
    t.IsPlaced place.names :=
  ht.isPlaced_of_resolve t.isPlaced_nil (fun _ hp => Text.not_mem_of_mem_fields hp) h

/-- What is put in the place of a folder must be one, for what is in the folder. -/
theorem WellFormed.put (ht : t.WellFormed) (hplaced : t.IsPlaced names)
    (hfolder : t.get? names = some .folder → e = .folder) : (t.put names e).WellFormed := by
  have hkeep : ∀ around, t.get? around = some .folder →
      (t.put names e).get? around = some .folder := by
    intro around haround
    by_cases hsame : around = names
    · subst hsame
      rw [hfolder haround]
      by_cases hnil : around = []
      · rw [hnil]
        rfl
      · exact get?_put_self hnil
    · rw [get?_put_of_ne hsame, haround]
  intro k hk
  rcases t.entries.mem_keys_insert hk with rfl | hk
  · exact ⟨hplaced.1, hkeep _ hplaced.2⟩
  · exact ⟨(ht k hk).1, hkeep _ (ht k hk).2⟩

theorem get?_foldl_erase (ks : List (List Text)) (t : FileTree) (k : List Text) :
    (ks.foldl (fun t k => ⟨t.entries.erase k⟩) t).entries.get? k =
      if k ∈ ks then none else t.entries.get? k := by
  induction ks generalizing t with
  | nil => rw [List.foldl_nil, if_neg List.not_mem_nil]
  | cons j ks ih =>
    rw [List.foldl_cons, ih, Keyed.get?_erase]
    by_cases hj : k = j <;> by_cases hk : k ∈ ks <;> simp [hj, hk]

theorem get?_entries_erase (t : FileTree) (names k : List Text) :
    (t.erase names).entries.get? k = if names <+: k then none else t.entries.get? k := by
  rw [erase, get?_foldl_erase]
  by_cases hprefix : names <+: k
  · rw [if_pos hprefix]
    split
    case isTrue => rfl
    case isFalse hnot =>
      have hkey : k ∉ t.entries.keys := fun hk =>
        hnot (List.mem_filter.mpr ⟨hk, List.isPrefixOf_iff_prefix.mpr hprefix⟩)
      rw [Keyed.mem_keys_iff, not_exists] at hkey
      exact Option.eq_none_iff_forall_ne_some.mpr hkey
  · rw [if_neg hprefix, if_neg]
    intro hmem
    exact hprefix (List.isPrefixOf_iff_prefix.mp (List.mem_filter.mp hmem).2)

/-- A folder that something is left in is left itself. -/
theorem WellFormed.erase (ht : t.WellFormed) (names : List Text) : (t.erase names).WellFormed := by
  intro k hk
  obtain ⟨e, he⟩ := Keyed.mem_keys_iff.mp hk
  rw [get?_entries_erase] at he
  split at he
  case isTrue => cases he
  case isFalse hprefix =>
    obtain ⟨hnames, hfolder⟩ := ht k (Keyed.mem_keys_iff.mpr ⟨e, he⟩)
    refine ⟨hnames, ?_⟩
    rw [get?] at hfolder ⊢
    split
    case isTrue => rfl
    case isFalse hroot =>
      have hprefix' : ¬names <+: k.dropLast := fun h => hprefix (h.trans (List.dropLast_prefix k))
      rw [get?_entries_erase, if_neg hprefix']
      rwa [if_neg hroot] at hfolder

theorem WellFormed.writeFile (ht : t.WellFormed) {content : ByteArray}
    (h : t.writeFile p content = .ok u) : u.WellFormed := by
  rw [FileTree.writeFile] at h
  obtain ⟨place, hplace, h⟩ := exists_of_bind_eq_ok h
  split at h
  case h_1 => cases h
  case h_2 hnot =>
    cases h
    refine ht.put (ht.isPlaced_of_place hplace) fun hfolder => (hnot ?_).elim
    rw [resolve_entry hplace, hfolder]

theorem WellFormed.makeFoldersFrom (ht : t.WellFormed) {before : List Text}
    (hpieces : ∀ piece ∈ before ++ pieces, '/' ∉ piece)
    (h : FileTree.makeFoldersFrom t before pieces = .ok u) : u.WellFormed := by
  induction pieces generalizing t before with
  | nil =>
    cases h
    exact ht
  | cons piece rest ih =>
    have hsplit : before ++ piece :: rest = before ++ [piece] ++ rest := by simp
    rw [hsplit] at hpieces
    rw [FileTree.makeFoldersFrom] at h
    obtain ⟨place, hplace, h⟩ := exists_of_bind_eq_ok h
    split at h
    case h_1 => exact ih ht hpieces h
    case h_2 => cases h
    case h_3 =>
      obtain ⟨own, -, h⟩ := exists_of_bind_eq_ok h
      split at h
      · cases h
      · have hplaced : t.IsPlaced place.names :=
          ht.isPlaced_of_resolve t.isPlaced_nil
            (fun p hp => hpieces p (List.mem_append_left rest hp)) hplace
        exact ih (ht.put hplaced fun _ => rfl) hpieces h

theorem WellFormed.makeFolders (ht : t.WellFormed) (h : t.makeFolders p = .ok u) : u.WellFormed :=
  ht.makeFoldersFrom (fun _ hp => Text.not_mem_of_mem_fields hp) h

theorem WellFormed.make (ht : t.WellFormed) (h : t.make p e = .ok u) : u.WellFormed := by
  cases e with
  | folder => exact ht.makeFolders h
  | file content =>
    obtain ⟨around, haround, h⟩ := exists_of_bind_eq_ok h
    exact (ht.makeFolders haround).writeFile h
  | link target =>
    obtain ⟨around, haround, h⟩ := exists_of_bind_eq_ok h
    obtain ⟨place, hplace, h⟩ := exists_of_bind_eq_ok h
    split at h
    case isTrue => cases h
    case isFalse hnone =>
      cases h
      have haround' := ht.makeFolders haround
      refine haround'.put (haround'.isPlaced_of_place hplace) fun hfolder => (hnone ?_).elim
      rw [resolve_entry hplace, hfolder]
      rfl

theorem WellFormed.remove (ht : t.WellFormed) (h : t.remove p = .ok u) : u.WellFormed := by
  obtain ⟨place, -, h⟩ := exists_of_bind_eq_ok h
  split at h
  case isTrue => cases h
  case isFalse =>
    cases h
    exact ht.erase place.names

end CommentTags.FileTree
