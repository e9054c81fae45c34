import Mathlib.Data.List.TakeWhile
import CommentTags.Document
import CommentTags.Proofs.Comment.Lookup
import CommentTags.Proofs.Keyed
import CommentTags.Settings

/-!
The user's languages. Their markers are accepted as they are written, and refused if one is empty
or one of a block is missing. A file with an extension of one of the languages is in that language,
and the table of languages has its markers under its name, whatever is built in.
-/
namespace CommentTags

namespace Path

theorem dot_mem_of_nameExtension? {name extension : Text}
    (h : nameExtension? name = some extension) : '.' ∈ name := by
  by_contra hdot
  have hall : name.reverse.takeWhile (· ≠ '.') = name.reverse := by
    rw [List.takeWhile_eq_self_iff]
    intro c hc
    have hne : c ≠ '.' := fun he => hdot (he ▸ List.mem_reverse.mp hc)
    exact decide_eq_true hne
  rw [nameExtension?] at h
  simp only [hall, List.length_reverse] at h
  rw [if_pos (Nat.le_succ _)] at h
  cases h

end Path

namespace Language

variable {p : Path} {extension : String}

/-- A name that decides by itself has no extension. -/
theorem ofPath_of_extension? (h : p.extension? = some extension)
    (extensions : Keyed String String) :
    ofPath extensions p =
      (extensions.get? (lowerCase extension)).getD (ofExtension (lowerCase extension)) := by
  obtain ⟨x, hx, -⟩ := Option.map_eq_some_iff.mp h
  obtain ⟨name, hname, hx⟩ := Option.bind_eq_some_iff.mp hx
  have hdot : '.' ∈ (lowerCase (String.ofList (p.fileName?.getD []))).toList := by
    apply mem_lowerCase (by decide +kernel)
    rw [hname, Option.getD_some, String.toList_ofList]
    exact Path.dot_mem_of_nameExtension? hx
  have hother : ∀ known : String, '.' ∉ known.toList →
      lowerCase (String.ofList (p.fileName?.getD [])) ≠ known := by
    intro known hknown heq
    exact hknown (heq ▸ hdot)
  have hmake : ¬(lowerCase (String.ofList (p.fileName?.getD [])) = "makefile" ∨
      lowerCase (String.ofList (p.fileName?.getD [])) = "gnumakefile") := by
    rintro (hm | hm)
    · exact hother _ (by decide) hm
    · exact hother _ (by decide) hm
  rw [ofPath]
  simp only [h]
  rw [if_neg (hother _ (by decide)), if_neg hmake]

end Language

namespace LanguageSettings

variable {l : LanguageSettings} {name : String} {m : Markers}

/-- No marker is empty, and block markers come in pairs. -/
def IsUsable (l : LanguageSettings) : Prop :=
  l.line ≠ some "" ∧ l.opening ≠ some "" ∧ l.closing ≠ some "" ∧
    l.opening.isSome = l.closing.isSome

instance (l : LanguageSettings) : Decidable l.IsUsable :=
  inferInstanceAs (Decidable (_ ∧ _ ∧ _ ∧ _))

/-- The markers as the user writes them. -/
def written (l : LanguageSettings) : Markers where
  line := l.line.map String.toList
  block := Option.map₂ (fun o c => ⟨o.toList, c.toList⟩) l.opening l.closing

theorem markers_eq_ok_iff : l.markers name = .ok m ↔ l.IsUsable ∧ m = l.written := by
  have hempty : ∀ marker : Option String, marker.map String.toList ≠ some [] ↔ marker ≠ some "" := by
    intro marker
    simp
  have hblock : Option.map₂ BlockMarkers.mk (l.opening.map String.toList)
      (l.closing.map String.toList) = l.written.block := by
    rw [Option.map₂_map_left, Option.map₂_map_right, written]
  rw [markers, Markers.custom_eq_ok_iff, hempty, hempty, hempty, hblock, Option.isSome_map,
    Option.isSome_map]
  rfl

theorem IsUsable.markers_eq (h : l.IsUsable) (name : String) : l.markers name = .ok l.written :=
  markers_eq_ok_iff.mpr ⟨h, rfl⟩

end LanguageSettings

namespace Settings

variable {s : Settings} {name : String} {l : LanguageSettings}

/-- An extension without the full stops before it. -/
def undotted (extension : String) : String :=
  String.ofList (extension.toList.dropWhile (· = '.'))

/-- The markers of all the user's languages are usable, and no two of the languages share a name,
whatever its case, or an extension, whatever its case and however many full stops come before it. -/
structure SeparatesLanguages (s : Settings) : Prop where
  names : (s.languages.entries.map fun e => lowerCase e.1).Nodup
  usable : ∀ e ∈ s.languages.entries, e.2.IsUsable
  extensions : ∀ e ∈ s.languages.entries, ∀ f ∈ s.languages.entries,
    ∀ x ∈ e.2.extensions, ∀ y ∈ f.2.extensions,
      lowerCase (undotted x) = lowerCase (undotted y) → e.1 = f.1

theorem overrides_eq (h : ∀ e ∈ s.languages.entries, e.2.IsUsable) :
    s.overrides = .ok (s.languages.entries.map fun e => (e.1, e.2.written)) := by
  apply mapM_eq_ok_map
  rintro ⟨name, l⟩ he
  dsimp only
  rw [(h (name, l) he).markers_eq]
  rfl

theorem SeparatesLanguages.get?_languageTable (h : s.SeparatesLanguages)
    (hl : (name, l) ∈ s.languages.entries) :
    ∃ table, s.languageTable = .ok table ∧ table.get? name = some l.written := by
  refine ⟨.withOverrides (s.languages.entries.map fun e => (e.1, e.2.written)), ?_, ?_⟩
  · rw [languageTable, overrides_eq h.usable]
  · have hd : ((s.languages.entries.map fun e => (e.1, e.2.written)).map
        fun e => lowerCase e.1).Nodup := by
      rw [List.map_map]
      exact h.names
    have hmem : (name, l.written) ∈ s.languages.entries.map fun e => (e.1, e.2.written) :=
      List.mem_map_of_mem hl
    rw [Languages.get?_withOverrides, Languages.lastOf?_eq_some hd hmem, Option.some_or]

theorem SeparatesLanguages.get?_extensions (h : s.SeparatesLanguages)
    (hl : (name, l) ∈ s.languages.entries) {x : String} (hx : x ∈ l.extensions) :
    s.extensions.get? (lowerCase (undotted x)) = some name := by
  apply Keyed.get?_ofList
  · exact List.mem_flatMap.mpr ⟨(name, l), hl, List.mem_map_of_mem hx⟩
  · intro other hother
    obtain ⟨e, he, hmem⟩ := List.mem_flatMap.mp hother
    obtain ⟨y, hy, heq⟩ := List.mem_map.mp hmem
    obtain ⟨hkey, rfl⟩ := Prod.mk.inj heq
    exact h.extensions e he (name, l) hl y hy x hx hkey

/-- A file with an extension of one of the user's languages is in that language, and the table has
the markers of the language under its name, just as the user writes them. -/
theorem ofPath_extensions (h : s.SeparatesLanguages) (hl : (name, l) ∈ s.languages.entries)
    {x : String} (hx : x ∈ l.extensions) {p : Path} {extension : String}
    (hp : p.extension? = some extension)
    (hkey : lowerCase extension = lowerCase (undotted x)) :
    Language.ofPath s.extensions p = name ∧
      ∃ table m, s.languageTable = .ok table ∧ l.markers name = .ok m ∧
        table.get? name = some m ∧
        m.line = l.line.map String.toList ∧
        m.block = Option.map₂ (fun o c => ⟨o.toList, c.toList⟩) l.opening l.closing := by
  constructor
  · rw [Language.ofPath_of_extension? hp, hkey, h.get?_extensions hl hx, Option.getD_some]
  · obtain ⟨table, htable, hget⟩ := h.get?_languageTable hl
    have hmarkers : l.markers name = .ok l.written := (h.usable (name, l) hl).markers_eq name
    exact ⟨table, l.written, htable, hmarkers, hget, rfl, rfl⟩

/-- A language with both kinds of markers, of a known name and with the extension of another. -/
def luaLanguage : LanguageSettings := ⟨some "%%", some "%[", some "]%", ["..PY"]⟩

def luaSettings : Settings :=
  { standard with
    languages := Keyed.ofList [("Lua", luaLanguage),
      ("Zig", ⟨some "//", none, none, ["zig", ".ZON"]⟩)] }

theorem separatesLanguages_luaSettings : luaSettings.SeparatesLanguages where
  names := by decide +kernel
  usable := by decide
  extensions := by decide +kernel

theorem ofPath_extensions_lua :
    luaSettings.SeparatesLanguages ∧ ("Lua", luaLanguage) ∈ luaSettings.languages.entries ∧
      "..PY" ∈ luaLanguage.extensions ∧ Path.extension? "src/tool.Py" = some "Py" ∧
      lowerCase "Py" = lowerCase (undotted "..PY") ∧
      Language.ofPath luaSettings.extensions "src/tool.Py" = "Lua" ∧
      ∃ table m, luaSettings.languageTable = .ok table ∧ luaLanguage.markers "Lua" = .ok m ∧
        table.get? "Lua" = some m ∧
        m.line = some ['%', '%'] ∧ m.block = some ⟨['%', '['], [']', '%']⟩ := by
  have hl : ("Lua", luaLanguage) ∈ luaSettings.languages.entries := by decide
  have hx : "..PY" ∈ luaLanguage.extensions := by decide
  have hp : Path.extension? "src/tool.Py" = some "Py" := by decide +kernel
  have hkey : lowerCase "Py" = lowerCase (undotted "..PY") := by decide +kernel
  exact ⟨separatesLanguages_luaSettings, hl, hx, hp, hkey,
    ofPath_extensions separatesLanguages_luaSettings hl hx hp hkey⟩

end Settings

end CommentTags
