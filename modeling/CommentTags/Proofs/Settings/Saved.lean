import CommentTags.Proofs.Files.Put
import CommentTags.Proofs.Settings.Document
import CommentTags.Settings.Files

/-!
Settings that were saved are loaded as they were, and settings that cannot be written change no
file.
-/
namespace CommentTags.Settings

variable {s : Settings} {t u : FileTree} {p : Path}

/-- A natural number fits if it is less than the 63rd power of two. -/
theorem fits_natural_iff (n : Nat) : Toml.fits n = true ↔ n < Nat.pow 2 63 := by
  have hleast : Int64.minValue.toInt = -9223372036854775808 := rfl
  have hmost : Int64.maxValue.toInt = 9223372036854775807 := rfl
  have hpower : Nat.pow 2 63 = 9223372036854775808 := rfl
  rw [Toml.fits, Bool.and_eq_true, decide_eq_true_eq, decide_eq_true_eq, hleast, hmost, hpower]
  omega

theorem isWritable_iff :
    s.isWritable = true ↔ s.scan.debounceMs < Nat.pow 2 63 ∧ s.scan.maxFileSize < Nat.pow 2 63 := by
  rw [isWritable, Bool.and_eq_true, fits_natural_iff, fits_natural_iff]

/-- The tree with the folders around a file. -/
def withFolders (t : FileTree) (p : Path) : Except FileFailure FileTree :=
  match p.parent? with
  | some parent => t.makeFolders parent
  | none => .ok t

theorem save_eq :
    s.save t p =
      match withFolders t p with
      | .error f => (t, .error (.file f))
      | .ok made =>
        match s.write with
        | .error e => (made, .error e)
        | .ok content =>
          match FileTree.writeText made p content with
          | .error f => (made, .error (.file f))
          | .ok u => (u, .ok ()) := rfl

/-- The file was in the way, or a number was too large, or the file was written. -/
theorem save_cases {result : Except SettingsError Unit} (h : s.save t p = (u, result)) :
    (∃ f, result = .error (.file f)) ∨
      (s.isWritable = false ∧ result = .error .unwritable ∧ withFolders t p = .ok u) ∨
      (s.isWritable = true ∧ result = .ok () ∧
        ∃ made : FileTree, made.writeText p (Toml.write s.items) = .ok u) := by
  rw [save_eq] at h
  split at h
  case h_1 f _ =>
    cases h
    exact .inl ⟨f, rfl⟩
  case h_2 made hmade =>
    by_cases hw : s.isWritable = true
    · rw [write, if_pos hw] at h
      dsimp only at h
      split at h
      case h_1 f _ =>
        cases h
        exact .inl ⟨f, rfl⟩
      case h_2 hu =>
        cases h
        exact .inr (.inr ⟨hw, rfl, made, hu⟩)
    · rw [write, if_neg hw] at h
      cases h
      exact .inr (.inl ⟨by simpa using hw, rfl, hmade⟩)

theorem entry_of_withFolders {e : FileEntry} {q : Path} (h : withFolders t p = .ok u)
    (he : t.entry q = .ok e) : u.entry q = .ok e := by
  rw [withFolders] at h
  split at h
  · exact FileTree.entry_of_makeFolders h he
  · cases h
    exact he

/-- Settings that were saved are loaded as they were. With numbers below the 63rd power of two
nothing but the file itself can be in the way, and where a number is too large whatever a path
led to before is left as it was. -/
theorem load_save (s : Settings) (t u : FileTree) (p : Path) :
    (s.save t p = (u, .ok ()) → load u p = .ok s) ∧
      (s.scan.debounceMs < Nat.pow 2 63 ∧ s.scan.maxFileSize < Nat.pow 2 63 →
        ∀ e, s.save t p = (u, .error e) → ∃ f, e = .file f) ∧
      (s.save t p = (u, .error .unwritable) → ∀ q e, t.entry q = .ok e → u.entry q = .ok e) := by
  refine ⟨?_, ?_, ?_⟩
  · intro h
    rcases save_cases h with ⟨f, hf⟩ | ⟨-, hf, -⟩ | ⟨hw, -, made, hwrite⟩
    · cases hf
    · cases hf
    · have htext := FileTree.readText_of_writeText hwrite
      rw [load, htext]
      exact read_write hw
  · intro hrange e h
    rcases save_cases h with ⟨f, hf⟩ | ⟨hw, -, -⟩ | ⟨-, hf, -⟩
    · exact ⟨f, Except.error.inj hf⟩
    · rw [isWritable_iff.mpr hrange] at hw
      cases hw
    · cases hf
  · intro h q e he
    rcases save_cases h with ⟨f, hf⟩ | ⟨-, -, hfolders⟩ | ⟨-, hf, -⟩
    · cases hf
    · exact entry_of_withFolders hfolders he
    · cases hf

/-- Both kinds of quotes, a backslash and a line end, empty lists and an odd language. -/
def quotedSettings : Settings where
  tags := [⟨"say \"todo\"", some "'''\n\\d", none, some "", some (-5)⟩, .named ""]
  scan := { ScanSettings.standard with excluded := [], debounceMs := Nat.pow 2 63 - 1 }
  highlight := .standard
  languages := Keyed.ofList [("c.\"#'", ⟨some "//", none, none, []⟩)]

def oversizedSettings : Settings :=
  { quotedSettings with scan := { ScanSettings.standard with maxFileSize := Nat.pow 2 63 } }

/-- A link leads from the place of the settings to a file in a folder. -/
def linkedTree : FileTree :=
  ((FileTree.empty.put ["etc".toList] .folder).put ["etc".toList, "tags.toml".toList]
    (.file .empty)).put ["own.toml".toList] (.link "etc/tags.toml")

theorem place_linkedTree : linkedTree.place true "/own.toml" =
    .ok ⟨["etc".toList, "tags.toml".toList], some (.file .empty)⟩ := by
  have hpath : Path.pieces "/own.toml" = [[], "own.toml".toList] := by decide
  have htarget : Path.pieces "etc/tags.toml" = ["etc".toList, "tags.toml".toList] := by decide
  have hlink : linkedTree.get? ["own.toml".toList] = some (.link "etc/tags.toml") := rfl
  have hfolder : linkedTree.get? ["etc".toList] = some .folder := rfl
  have hfile : linkedTree.get? ["etc".toList, "tags.toml".toList] = some (.file .empty) := rfl
  rw [FileTree.place, hpath, FileTree.resolve_silent rfl rfl]
  change linkedTree.resolve true (39 + 1) [] ["own.toml".toList] = _
  rw [FileTree.resolve_link rfl (by decide) (by decide) hlink (by decide), htarget]
  change linkedTree.resolve true 39 [] ["etc".toList, "tags.toml".toList] = _
  rw [FileTree.resolve_onto rfl (by decide) (by decide) hfolder (fun _ h => by cases h),
    List.nil_append,
    FileTree.resolve_onto hfolder (by decide) (by decide) hfile (fun _ h => by cases h),
    FileTree.resolve]
  rfl

theorem withFolders_linkedTree : withFolders linkedTree "/own.toml" = .ok linkedTree := by
  have hparent : Path.parent? "/own.toml" = some "/" := by decide
  have hpath : Path.pieces "/" = [[], []] := by decide
  rw [withFolders, hparent]
  dsimp only
  rw [FileTree.makeFolders, hpath]
  have hsilent : Path.isSilent [] = true := rfl
  have hfirst : linkedTree.resolve true FileTree.maxLinks [] [[]] = .ok ⟨[], some .folder⟩ := by
    rw [FileTree.resolve_silent rfl hsilent, FileTree.resolve]
    rfl
  have hsecond : linkedTree.resolve true FileTree.maxLinks [] [[], []] =
      .ok ⟨[], some .folder⟩ := by
    rw [FileTree.resolve_silent rfl hsilent, hfirst]
  rw [FileTree.makeFoldersFrom, List.nil_append, hfirst]
  change FileTree.makeFoldersFrom linkedTree [[]] [[]] = _
  rw [FileTree.makeFoldersFrom]
  change (linkedTree.resolve true FileTree.maxLinks [] [[], []] >>= _) = _
  rw [hsecond]
  rfl

theorem load_save_quoted :
    (∃ u, quotedSettings.save linkedTree "/own.toml" = (u, .ok ()) ∧
        load u "/own.toml" = .ok quotedSettings) ∧
      oversizedSettings.save linkedTree "/own.toml" = (linkedTree, .error .unwritable) ∧
        linkedTree.entry "/own.toml" = .ok (.file .empty) := by
  have hentry : linkedTree.entry "/own.toml" = .ok (.file .empty) := by
    rw [FileTree.entry, place_linkedTree]
    rfl
  have hlarge : oversizedSettings.save linkedTree "/own.toml" =
      (linkedTree, .error .unwritable) := by
    rw [save_eq, withFolders_linkedTree]
    rfl
  have hsave : quotedSettings.save linkedTree "/own.toml" =
      (linkedTree.put ["etc".toList, "tags.toml".toList]
        (.file (String.ofList (Toml.write quotedSettings.items)).toUTF8), .ok ()) := by
    have hwrite : linkedTree.writeText "/own.toml" (Toml.write quotedSettings.items) =
        .ok (linkedTree.put ["etc".toList, "tags.toml".toList]
          (.file (String.ofList (Toml.write quotedSettings.items)).toUTF8)) := by
      rw [FileTree.writeText, FileTree.writeFile, place_linkedTree]
      rfl
    have hdocument : quotedSettings.write = .ok (Toml.write quotedSettings.items) :=
      if_pos (by decide)
    rw [save_eq, withFolders_linkedTree]
    simp only [hdocument, hwrite]
  refine ⟨⟨_, hsave, (load_save quotedSettings linkedTree _ "/own.toml").1 hsave⟩, hlarge, ?_⟩
  exact (load_save oversizedSettings linkedTree linkedTree "/own.toml").2.2 hlarge _ _ hentry

end CommentTags.Settings
