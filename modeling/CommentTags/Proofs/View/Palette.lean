import CommentTags.Proofs.Tag.PlainSearch
import CommentTags.View.Highlight

/-!
The colors of tags that were found. A palette knows a tag by its name in upper case and passes
over tags without a color, and so it can color a found tag like another one.
-/
namespace CommentTags

namespace Pattern

/-- Names that fold alike are found at the same places. -/
theorem ends_likeText_congr {name other : Text} (h : name.map fold = other.map fold) :
    (likeText name).ends = (likeText other).ends := by
  have hlength : name.length = other.length := by
    simpa using congrArg List.length h
  funext c
  rw [ends_likeText, ends_likeText, Text.startsLike, Text.startsLike, h, hlength]

end Pattern

namespace Finder

variable {f g : Finder} {line : Text} {c : Comment}

theorem find?_eq_none_congr (h : f.subject.ends = g.subject.ends)
    (hf : f.find? line c = none) : g.find? line c = none := by
  have hseq : (Pattern.seq f.subject separator).ends = (Pattern.seq g.subject separator).ends := by
    funext e
    rw [Pattern.ends, Pattern.ends, h]
  have hsplit : g.split? c.text = f.split? c.text := by
    rw [split?, split?, Pattern.findSplit?, Pattern.findSplit?, hseq]
  have hnone : f.split? c.text = none := Option.map_eq_none_iff.mp hf
  rw [find?, hsplit, hnone]
  rfl

end Finder

namespace TagSet

variable {tags : List Tag} {line : Text} {c : Comment} {m : TagMatch}

theorem finders_compile (hplain : ∀ tag ∈ tags, tag.pattern = none) :
    (compile tags).1.finders =
      (tags.filter Tag.isNamed).map fun tag => ⟨tag, .likeText tag.name.toList⟩ :=
  compileFrom_plain hplain 0

theorem findSome?_plain (hc : c.liesOn line = true) (hline : '\n' ∉ c.text) (tags : List Tag) :
    (tags.map fun tag => (⟨tag, .likeText tag.name.toList⟩ : Finder)).findSome?
        (fun f => f.find? line c) =
      tags.findSome? fun tag => tag.plainMatch? line c := by
  rw [List.findSome?_map]
  congr 1
  funext tag
  exact Finder.find?_plain rfl hc hline

theorem subject_of_mem_compile (hplain : ∀ tag ∈ tags, tag.pattern = none) {f : Finder}
    (hf : f ∈ (compile tags).1.finders) : f.subject = .likeText f.tag.name.toList := by
  rw [finders_compile hplain] at hf
  obtain ⟨tag, -, rfl⟩ := List.mem_map.mp hf
  rfl

/-- No tag before the one that is reported has a name that folds alike. -/
theorem exists_tags_eq_append (hplain : ∀ tag ∈ tags, tag.pattern = none)
    (hfind : (compile tags).1.find? line c = some m) :
    ∃ before after, (compile tags).1.tags = before ++ m.tag :: after ∧
      ∀ tag ∈ before, tag.name.toList.map fold ≠ m.tag.name.toList.map fold := by
  rw [find?] at hfind
  split at hfind
  case isFalse => cases hfind
  case isTrue =>
    obtain ⟨before, f, after, hsplit, hf, hnone⟩ := List.findSome?_eq_some_iff.mp hfind
    have htag : f.tag = m.tag := by
      obtain ⟨-, -, rfl⟩ := Option.map_eq_some_iff.mp hf
      rfl
    refine ⟨before.map Finder.tag, after.map Finder.tag, ?_, ?_⟩
    · rw [TagSet.tags, hsplit, List.map_append, List.map_cons, htag]
    · intro tag hmem hlike
      obtain ⟨g, hg, rfl⟩ := List.mem_map.mp hmem
      have hsubject : g.subject.ends = f.subject.ends := by
        have hgs := subject_of_mem_compile hplain (f := g) (hsplit ▸ List.mem_append_left _ hg)
        have hfs := subject_of_mem_compile hplain (f := f)
          (hsplit ▸ List.mem_append_right _ List.mem_cons_self)
        rw [hgs, hfs, Pattern.ends_likeText_congr (htag ▸ hlike)]
      have hmissing : f.find? line c = none := Finder.find?_eq_none_congr hsubject (hnone g hg)
      rw [hmissing] at hf
      cases hf

end TagSet

namespace Palette

/-- The first color that one of the tags gives to the name, whatever its case. -/
def colorAmong? (tags : List Tag) (name : String) : Option String :=
  tags.findSome? fun tag => if upperCase tag.name = upperCase name then tag.color else none

theorem color_ofTags (tags : List Tag) (settings : HighlightSettings) (name : String) :
    (ofTags tags settings).color name =
      (colorAmong? tags name).getD settings.defaultColor := by
  have hlookup : (tags.filterMap fun tag => tag.color.map (upperCase tag.name, ·)).lookup
      (upperCase name) = colorAmong? tags name := by
    induction tags with
    | nil => rfl
    | cons tag tags ih =>
      rw [colorAmong?] at ih
      rw [List.filterMap_cons, colorAmong?, List.findSome?_cons]
      cases hcolor : tag.color with
      | none => simpa using ih
      | some color =>
        by_cases hname : upperCase tag.name = upperCase name
        · simp [hname]
        · have hother : (upperCase name == upperCase tag.name) = false :=
            beq_eq_false_iff_ne.mpr (Ne.symm hname)
          simpa [List.lookup_cons, hother, hname] using ih
  rw [color, ofTags, hlookup]

/-- The color that the tag has or, as it has none, that tags have in general. -/
def shownColor (settings : HighlightSettings) (tag : Tag) : String :=
  tag.color.getD settings.defaultColor

/-- Another tag gives its color to the name: one before it, or one after it that has a color where
the tag itself has none. -/
def IsRecolored (settings : HighlightSettings) (before : List Tag) (tag : Tag)
    (after : List Tag) : Prop :=
  ∃ color, color ≠ shownColor settings tag ∧
    (colorAmong? before tag.name = some color ∨
      colorAmong? before tag.name = none ∧ tag.color = none ∧
        colorAmong? after tag.name = some color)

theorem color_eq_shownColor_iff (settings : HighlightSettings) (before : List Tag) (tag : Tag)
    (after : List Tag) :
    (ofTags (before ++ tag :: after) settings).color tag.name = shownColor settings tag ↔
      ¬IsRecolored settings before tag after := by
  have hamong : colorAmong? (before ++ tag :: after) tag.name =
      (colorAmong? before tag.name).or (tag.color.or (colorAmong? after tag.name)) := by
    rw [colorAmong?, List.findSome?_append, List.findSome?_cons, if_pos rfl]
    cases tag.color <;> rfl
  rw [color_ofTags, hamong, IsRecolored, shownColor]
  -- The first of the three that has a color decides.
  cases colorAmong? before tag.name with
  | some color => simp
  | none =>
    cases tag.color with
    | some color => simp
    | none => cases colorAmong? after tag.name <;> simp

/-- A found tag is painted in its own color or in the general one, unless another tag with the
same name in upper case gives it a color: one that matching takes for another name, or one further
down where the tag itself has no color. -/
theorem color_of_find?_iff {tags : List Tag} (hplain : ∀ tag ∈ tags, tag.pattern = none)
    (settings : HighlightSettings) {line : Text} {c : Comment} {m : TagMatch}
    (hfind : (TagSet.compile tags).1.find? line c = some m) :
    ∃ before after, (TagSet.compile tags).1.tags = before ++ m.tag :: after ∧
      (∀ tag ∈ before, tag.name.toList.map fold ≠ m.tag.name.toList.map fold) ∧
      ((ofTags (TagSet.compile tags).1.tags settings).color m.tag.name =
          shownColor settings m.tag ↔
        ¬IsRecolored settings before m.tag after) := by
  obtain ⟨before, after, htags, hfold⟩ := TagSet.exists_tags_eq_append hplain hfind
  refine ⟨before, after, htags, hfold, ?_⟩
  rw [htags]
  exact color_eq_shownColor_iff settings before m.tag after

/-- In upper case `ß` is `SS`, but matching tells them apart. -/
def sharpTags : List Tag :=
  [{ Tag.named "ß" with color := some "#111111" }, { Tag.named "SS" with color := some "#222222" }]

theorem color_of_find?_sharp :
    (∀ tag ∈ sharpTags, tag.pattern = none) ∧
      ∃ m, (TagSet.compile sharpTags).1.find? "# ss: x".toList ⟨" ss: x".toList, 1⟩ = some m ∧
        ∃ before after, (TagSet.compile sharpTags).1.tags = before ++ m.tag :: after ∧
          (∀ tag ∈ before, tag.name.toList.map fold ≠ m.tag.name.toList.map fold) ∧
          ((ofTags (TagSet.compile sharpTags).1.tags .standard).color m.tag.name =
              shownColor .standard m.tag ↔
            ¬IsRecolored .standard before m.tag after) := by
  have hplain : ∀ tag ∈ sharpTags, tag.pattern = none := by decide
  have hfind : (TagSet.compile sharpTags).1.find? "# ss: x".toList ⟨" ss: x".toList, 1⟩ =
      some ⟨⟨"SS", none, some "#222222", none, none⟩, ['x'], 2, 7⟩ := by
    rw [TagSet.find?, if_pos (by decide), TagSet.finders_compile hplain,
      TagSet.findSome?_plain (by decide) (by decide)]
    decide +kernel
  exact ⟨hplain, _, hfind, color_of_find?_iff hplain .standard hfind⟩

/-- Two tags of one name, of which the second has a color. -/
def repeatedTags : List Tag :=
  [.named "TODO", { Tag.named "todo" with color := some "#222222" }]

/-- The first of the two is found and has no color, but is painted in that of the second. -/
theorem color_of_repeated_tag :
    ∃ m, (TagSet.compile repeatedTags).1.find? "# TODO: x".toList ⟨" TODO: x".toList, 1⟩ = some m ∧
      m.tag = .named "TODO" ∧ shownColor .standard m.tag = "#ffd700" ∧
      (ofTags (TagSet.compile repeatedTags).1.tags .standard).color m.tag.name = "#222222" := by
  have hplain : ∀ tag ∈ repeatedTags, tag.pattern = none := by decide
  have hfinders := TagSet.finders_compile hplain
  refine ⟨⟨.named "TODO", ['x'], 2, 9⟩, ?_, rfl, rfl, ?_⟩
  · rw [TagSet.find?, if_pos (by decide), hfinders,
      TagSet.findSome?_plain (by decide) (by decide)]
    decide +kernel
  · rw [TagSet.tags, hfinders]
    decide +kernel

end Palette

end CommentTags
