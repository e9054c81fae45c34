import CommentTags.Proofs.Tag.Custom
import CommentTags.Scanner

/-!
Which of the configured tags are active. The others are reported, each with its own place, and
nothing else shows that they were in the list.
-/
namespace CommentTags

/-- The tag with the pattern it stands for, if it can be used. -/
def Tag.finder? (tag : Tag) : Option Finder :=
  match tag.subject with
  | .ok p => some ⟨tag, p⟩
  | .error _ => none

namespace TagSet

theorem finders_compileFrom (index : Nat) (tags : List Tag) :
    (compileFrom index tags).1 = tags.filterMap Tag.finder? := by
  induction tags generalizing index with
  | nil => rfl
  | cons tag tags ih =>
    rw [compileFrom, List.filterMap_cons, Tag.finder?]
    cases tag.subject with
    | ok p => exact congrArg (⟨tag, p⟩ :: ·) (ih (index + 1))
    | error flaw => exact ih (index + 1)

theorem finders_compile_append (tags more : List Tag) :
    (compile (tags ++ more)).1.finders = (compile tags).1.finders ++ (compile more).1.finders := by
  change (compileFrom 0 (tags ++ more)).1 = (compileFrom 0 tags).1 ++ (compileFrom 0 more).1
  simp only [finders_compileFrom, List.filterMap_append]

/-- Each tag, with its place, is either kept or refused, and both parts are in the order of the
list. -/
theorem compileFrom_splits (index : Nat) (tags : List Tag) :
    ∃ kept refused : List (Tag × Nat),
      kept.Sublist (tags.zipIdx index) ∧ refused.Sublist (tags.zipIdx index) ∧
      (kept ++ refused).Perm (tags.zipIdx index) ∧
      (compileFrom index tags).1.map (fun f => (f.tag, Except.ok f.subject)) =
        kept.map (fun e => (e.1, e.1.subject)) ∧
      (compileFrom index tags).2.map (fun r => (r.index, r.name, Except.error r.flaw)) =
        refused.map fun e => (e.2, e.1.name, e.1.subject) := by
  induction tags generalizing index with
  | nil => exact ⟨[], [], .slnil, .slnil, .nil, rfl, rfl⟩
  | cons tag tags ih =>
    obtain ⟨kept, refused, hkept, hrefused, hperm, hfinders, hrejected⟩ := ih (index + 1)
    rw [compileFrom, List.zipIdx_cons]
    cases hsubject : tag.subject with
    | ok p =>
      refine ⟨(tag, index) :: kept, refused, hkept.cons_cons _, hrefused.cons _,
        hperm.cons _, ?_, hrejected⟩
      simp only [List.map_cons, hfinders, hsubject]
    | error flaw =>
      refine ⟨kept, (tag, index) :: refused, hkept.cons _, hrefused.cons_cons _,
        List.perm_middle.trans (hperm.cons _), hfinders, ?_⟩
      simp only [List.map_cons, hrejected, hsubject]

/-- Tags that were accepted once are accepted again, with the same patterns. -/
theorem compileFrom_map_tag {finders : List Finder}
    (h : ∀ f ∈ finders, f.tag.subject = .ok f.subject) (index : Nat) :
    compileFrom index (finders.map Finder.tag) = (finders, []) := by
  induction finders generalizing index with
  | nil => rfl
  | cons f finders ih =>
    have hrest := ih (fun g hg => h g (List.mem_cons_of_mem f hg)) (index + 1)
    rw [List.map_cons, compileFrom, hrest, h f List.mem_cons_self]

theorem compile_tags (tags : List Tag) :
    compile (compile tags).1.tags = ((compile tags).1, []) := by
  have hagain : compileFrom 0 ((compile tags).1.finders.map Finder.tag) =
      ((compile tags).1.finders, []) :=
    compileFrom_map_tag (fun f hf => subject_of_mem_compileFrom hf) 0
  rw [compile, TagSet.tags, hagain]

theorem ofTags_eq_ok_iff {tags : List Tag} {all : TagSet} :
    ofTags tags = .ok all ↔ (compile tags).2 = [] ∧ all = (compile tags).1 := by
  rw [ofTags]
  cases hcompile : compile tags with
  | mk set rejected =>
    cases rejected with
    | nil => simp [eq_comm]
    | cons r rs => simp

end TagSet

namespace Scanner

/-- Settings make a scanner if their languages are without flaw and none of their tags is
rejected. -/
theorem ofSettings_eq_ok_iff {settings : Settings} {s : Scanner} :
    ofSettings settings = .ok s ↔
      (TagSet.compile settings.tags).2 = [] ∧ ∃ languages,
        settings.languageTable = .ok languages ∧
        s = ⟨(TagSet.compile settings.tags).1, languages, .empty⟩ := by
  rw [ofSettings]
  cases settings.languageTable with
  | error e => simp
  | ok languages =>
    change (if (TagSet.compile settings.tags).2.isEmpty then Except.ok _ else _) = _ ↔ _
    cases (TagSet.compile settings.tags).2 with
    | nil =>
      simp only [List.isEmpty_nil, if_true, Except.ok.injEq, true_and, exists_eq_left']
      exact eq_comm
    | cons r rs => simp

/-- Tags that cannot be used are reported and do nothing else. Each entry of the list is either
active, with the pattern it stands for, or rejected, with its place, its name and its flaw; both
kinds keep the order of the list. A set that must hold all tags is made exactly if none is
rejected. In every comment the active tags find what they find when the others are not in the list
at all. A scanner takes the active tags and tells how many of each kind there are, whether tags
were rejected or not, and keeps its cache; from settings it is made only if none is rejected. -/
theorem configure_splits (tags : List Tag) :
    let set := (TagSet.compile tags).1
    let rejected := (TagSet.compile tags).2
    (∃ kept refused : List (Tag × Nat),
      kept.Sublist tags.zipIdx ∧ refused.Sublist tags.zipIdx ∧
      (kept ++ refused).Perm tags.zipIdx ∧
      set.finders.map (fun f => (f.tag, Except.ok f.subject)) =
        kept.map (fun e => (e.1, e.1.subject)) ∧
      rejected.map (fun r => (r.index, r.name, Except.error r.flaw)) =
        refused.map fun e => (e.2, e.1.name, e.1.subject)) ∧
    (∀ all, TagSet.ofTags tags = .ok all ↔ rejected = [] ∧ all = set) ∧
    (∀ line c, set.find? line c = (TagSet.compile set.tags).1.find? line c) ∧
    (∀ s : Scanner, s.configure tags =
      ⟨rejected, { s with tags := set }, [.tagsConfigured set.size rejected.length]⟩) ∧
    ∀ (settings : Settings) (s : Scanner), ofSettings { settings with tags := tags } = .ok s ↔
      rejected = [] ∧ ∃ languages, settings.languageTable = .ok languages ∧
        s = ⟨set, languages, .empty⟩ := by
  intro set rejected
  refine ⟨TagSet.compileFrom_splits 0 tags, fun all => TagSet.ofTags_eq_ok_iff, ?_, fun s => rfl,
    fun settings s => ofSettings_eq_ok_iff⟩
  intro line c
  rw [TagSet.compile_tags]

/-- A name of blanks and a group that is not closed are rejected; a second tag of one name is not. -/
example :
    let tags : List Tag := [.named "TODO", { Tag.named "BROKEN" with pattern := some "(unclosed" },
      .named "  ", .named "todo"]
    (TagSet.compile tags).1.tags = [.named "TODO", .named "todo"] ∧
      (TagSet.compile tags).2 = [⟨1, "BROKEN", .invalidPattern⟩, ⟨2, "  ", .emptyName⟩] := by
  decide +kernel

end Scanner

end CommentTags
