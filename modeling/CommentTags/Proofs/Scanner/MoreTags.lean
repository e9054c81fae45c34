import CommentTags.Proofs.Scanner.CacheOrder
import CommentTags.Proofs.Tag.Compile
import CommentTags.Proofs.Tag.Extent

/-!
Tags put behind others. The comments do not depend on the tags, and in each comment the first tag
decides, so the new tags only show where none of the others is found.
-/
namespace CommentTags

namespace TagSet

/-- Where no tag of the first list is found, the second one is looked through. -/
theorem find?_compile_append (tags more : List Tag) (line : Text) (c : Comment) :
    (compile (tags ++ more)).1.find? line c =
      ((compile tags).1.find? line c).or ((compile more).1.find? line c) := by
  rw [find?, find?, find?, finders_compile_append, List.findSome?_append]
  cases c.liesOn line <;> rfl

variable {id : DocumentId} {m : Markers}

section Or

variable {all tags more : TagSet}
  (hall : ∀ line c, all.find? line c = (tags.find? line c).or (more.find? line c))

include hall

theorem bind_find?_or (line : Text) (c : Option Comment) :
    c.bind (all.find? line) = (c.bind (tags.find? line)).or (c.bind (more.find? line)) := by
  cases c with
  | none => rfl
  | some c => exact hall line c

theorem findAll_sublist (state : BlockState) (i : Nat) (lines : List Text) :
    (tags.findAll id m state i lines).Sublist (all.findAll id m state i lines) := by
  induction lines generalizing state i with
  | nil => exact List.Sublist.refl _
  | cons line rest ih =>
    rw [findAll, findAll, bind_find?_or hall]
    refine List.Sublist.append ?_ (ih _ _)
    cases (m.locate state line).1.bind (tags.find? line) with
    | none => exact List.nil_sublist _
    | some found => exact List.Sublist.refl _

/-- What is found besides is found by the second set, on a line without a tag of the first. -/
theorem mem_findAll_or {state : BlockState} {i : Nat} {lines : List Text} {t : FoundTag}
    (h : t ∈ all.findAll id m state i lines) :
    t ∈ tags.findAll id m state i lines ∨
      t ∈ more.findAll id m state i lines ∧
        ∀ u ∈ tags.findAll id m state i lines, u.line ≠ t.line := by
  induction lines generalizing state i with
  | nil => cases h
  | cons line rest ih =>
    rw [findAll, bind_find?_or hall, List.mem_append] at h
    rw [findAll, findAll, List.mem_append, List.mem_append]
    rcases h with h | h
    · cases hfirst : (m.locate state line).1.bind (tags.find? line) with
      | some found =>
        rw [hfirst] at h
        exact .inl (.inl h)
      | none =>
        rw [hfirst, Option.none_or] at h
        refine .inr ⟨.inl h, ?_⟩
        obtain ⟨found, -, rfl⟩ := Option.map_eq_some_iff.mp (Option.mem_toList.mp h)
        intro u hu
        have hline : i + 1 ≤ u.line := le_line_of_mem_findAll hu
        exact Nat.ne_of_gt hline
    · rcases ih h with hrest | ⟨hmore, hnone⟩
      · exact .inl (.inr hrest)
      · refine .inr ⟨.inr hmore, ?_⟩
        have hline : i + 1 ≤ t.line := le_line_of_mem_findAll hmore
        intro u hu
        rcases List.mem_append.mp hu with hu | hu
        · obtain ⟨found, -, rfl⟩ := Option.map_eq_some_iff.mp (Option.mem_toList.mp hu)
          exact Nat.ne_of_lt hline
        · exact hnone u hu

end Or

/-- A found tag has the name of one of the tags that were looked for. -/
theorem exists_tag_of_mem_findAll {tags : List Tag} {state : BlockState} {i : Nat}
    {lines : List Text} {t : FoundTag}
    (h : t ∈ (compile tags).1.findAll id m state i lines) : ∃ tag ∈ tags, tag.name = t.tag := by
  obtain ⟨k, line, c, found, -, hfind, rfl⟩ := exists_of_mem_findAll h
  obtain ⟨hc, f, hf, hfound⟩ := exists_finder_of_find? hfind
  obtain ⟨matched, -, htag, -⟩ := Finder.exists_of_find? hc hfound
  change f ∈ (compileFrom 0 tags).1 at hf
  rw [finders_compileFrom] at hf
  obtain ⟨tag, hmem, hfinder⟩ := List.mem_filterMap.mp hf
  have hsame : f.tag = tag := by
    rw [Tag.finder?] at hfinder
    split at hfinder
    · cases hfinder
      rfl
    · cases hfinder
  exact ⟨tag, hmem, by rw [← hsame, ← htag]; rfl⟩

end TagSet

namespace Scanner

/-- Tags put behind others do not disturb these: every tag that a scan found before is found again,
the same in all and in the same order. Whatever is found besides stands on a line on which nothing
was found before, is what a scan for the new tags alone finds there, and has the name of one of
them. -/
theorem scan_append_tags (s : Scanner) (tags more : List Tag) (d : Source) :
    let scanned (tags : List Tag) := ((s.configure tags).scanner.scan d).answer
    (scanned tags).Sublist (scanned (tags ++ more)) ∧
      ∀ t ∈ scanned (tags ++ more), t ∉ scanned tags →
        (∀ u ∈ scanned tags, u.line ≠ t.line) ∧ t ∈ scanned more ∧
          ∃ tag ∈ more, tag.name = t.tag := by
  intro scanned
  have hscanned : ∀ tags, scanned tags = d.found s.languages (TagSet.compile tags).1 :=
    fun tags => scan_answer _ d
  have hall := TagSet.find?_compile_append tags more
  simp only [hscanned, Source.found_eq_findAll]
  split
  case isFalse => exact ⟨List.Sublist.refl _, fun t ht => nomatch ht⟩
  case isTrue =>
    cases s.languages.get? d.language with
    | none => exact ⟨List.Sublist.refl _, fun t ht => nomatch ht⟩
    | some m =>
      simp only [Option.map_some, Option.getD_some]
      refine ⟨TagSet.findAll_sublist hall _ _ _, ?_⟩
      intro t ht hnew
      obtain ⟨hmore, hnone⟩ := (TagSet.mem_findAll_or hall ht).resolve_left hnew
      exact ⟨hnone, hmore, TagSet.exists_tag_of_mem_findAll hmore⟩

/-- A shorter name that comes later does not take a line from a longer one, and a name of blanks
does not count. -/
theorem scan_append_tags_shorter :
    let tags : List Tag := [.named "TODO-LATER", .named " "]
    let more : List Tag := [.named "TODO", .named "FIXME"]
    let d := (Document.ofText "a.py" "python" "# TODO-LATER: a\n# FIXME b".toList).source
    let scanned (tags : List Tag) := ((standard.configure tags).scanner.scan d).answer
    let later : FoundTag :=
      ⟨"a.py", .onLine 0 2 15, "# TODO-LATER: a".toList, "TODO-LATER", ['a'], 0⟩
    let fix : FoundTag := ⟨"a.py", .onLine 1 2 9, "# FIXME b".toList, "FIXME", ['b'], 1⟩
    scanned tags = [later] ∧ scanned (tags ++ more) = [later, fix] ∧
      (scanned tags).Sublist (scanned (tags ++ more)) ∧ fix ∈ scanned more := by
  intro tags more d scanned later fix
  have hscanned : ∀ tags, scanned tags =
      (TagSet.compile tags).1.findAll "a.py" (.lineOnly "#") .outside 0
        ["# TODO-LATER: a".toList, "# FIXME b".toList] := by
    intro tags
    have hlines : (Document.ofText "a.py" "python" "# TODO-LATER: a\n# FIXME b".toList).lineTexts =
        ["# TODO-LATER: a".toList, "# FIXME b".toList] := by decide
    have hm : standard.languages.get? "python" = some (.lineOnly "#") := by decide
    change ((standard.configure tags).scanner.scan _).answer = _
    rw [scan_answer, Document.found_source, if_pos (by decide), hlines]
    change ((standard.languages.get? "python").map _).getD [] = _
    rw [hm]
    rfl
  have hcomments : (Markers.lineOnly "#").locate .outside "# TODO-LATER: a".toList =
        (some ⟨" TODO-LATER: a".toList, 1⟩, .outside) ∧
      (Markers.lineOnly "#").locate .outside "# FIXME b".toList =
        (some ⟨" FIXME b".toList, 1⟩, .outside) := by decide
  have hfind : ∀ tags : List Tag, (∀ tag ∈ tags, tag.pattern = none) →
      scanned tags =
        (((tags.filter Tag.isNamed).findSome? fun tag => tag.plainMatch? "# TODO-LATER: a".toList
          ⟨" TODO-LATER: a".toList, 1⟩).map (.ofMatch "a.py" 0 "# TODO-LATER: a".toList)).toList ++
        (((tags.filter Tag.isNamed).findSome? fun tag => tag.plainMatch? "# FIXME b".toList
          ⟨" FIXME b".toList, 1⟩).map (.ofMatch "a.py" 1 "# FIXME b".toList)).toList := by
    intro tags hplain
    have hlater : (TagSet.compile tags).1.find? "# TODO-LATER: a".toList
        ⟨" TODO-LATER: a".toList, 1⟩ = _ :=
      TagSet.find?_compile_plain hplain (by decide) (by decide)
    have hfix : (TagSet.compile tags).1.find? "# FIXME b".toList ⟨" FIXME b".toList, 1⟩ = _ :=
      TagSet.find?_compile_plain hplain (by decide) (by decide)
    rw [hscanned]
    simp only [TagSet.findAll, hcomments, Option.bind_some, hlater, hfix, List.append_nil]
  have hfirst : scanned tags = [later] := by
    rw [hfind tags (by decide)]
    decide +kernel
  have hboth : scanned (tags ++ more) = [later, fix] := by
    rw [hfind (tags ++ more) (by decide)]
    decide +kernel
  obtain ⟨hsublist, hnew⟩ := scan_append_tags standard tags more d
  have hin : fix ∈ scanned (tags ++ more) := by
    rw [hboth]
    exact List.mem_cons_of_mem _ List.mem_cons_self
  have hout : fix ∉ scanned tags := by
    rw [hfirst]
    decide
  exact ⟨hfirst, hboth, hsublist, (hnew fix hin hout).2.1⟩

end Scanner

end CommentTags
