import CommentTags.Proofs.Scanner.CacheOrder
import CommentTags.Proofs.Tag.PlainSearch

/-!
Scans of documents that go away. Such a scan finds what a scan of the undisturbed document finds
above the line that is missing, and nothing of it stays behind.
-/
namespace CommentTags

namespace Source

/-- The document should have line `k`, but does not, and no line above it is missing. -/
structure GoesAwayAt (d : Source) (k : Nat) : Prop where
  lt_lineCount : k < d.lineCount
  gone : d.lineText k = none
  above : ∀ i < k, (d.lineText i).isSome

/-- The same document undisturbed: no line of it is missing, and above line `k` it has the lines
of the other one. -/
structure Undisturbed (whole d : Source) (k : Nat) : Prop where
  id_eq : whole.id = d.id
  language_eq : whole.language = d.language
  isScannable_eq : whole.isScannable = d.isScannable
  lineCount_eq : whole.lineCount = d.lineCount
  lines_eq : ∀ i < k, whole.lineText i = d.lineText i
  complete : ∀ i < whole.lineCount, (whole.lineText i).isSome

variable {d whole : Source} {k : Nat} {languages : Languages} {m : Markers}

theorem found_of_scannable (hs : d.isScannable = true) (hm : languages.get? d.language = some m)
    (tags : TagSet) : d.found languages tags =
      tags.findAll d.id m .outside 0 (d.linesFrom 0 d.lineCount) := by
  rw [found_eq_findAll, if_pos hs, hm, Option.map_some, Option.getD_some]

theorem GoesAwayAt.not_completes (h : d.GoesAwayAt k) (hm : languages.get? d.language = some m) :
    d.completes languages = false := by
  have hlines : ((List.range d.lineCount).all fun i => (d.lineText i).isSome) = false := by
    rw [List.all_eq_false]
    refine ⟨k, List.mem_range.mpr h.lt_lineCount, ?_⟩
    simp [h.gone]
  rw [completes, hm, Option.all_some, hlines, Bool.and_false]

theorem Undisturbed.completes (h : whole.Undisturbed d k) (hs : d.isScannable = true)
    (languages : Languages) : whole.completes languages = true := by
  have hlines : ((List.range whole.lineCount).all fun i => (whole.lineText i).isSome) = true := by
    rw [List.all_eq_true]
    exact fun i hi => h.complete i (List.mem_range.mp hi)
  rw [Source.completes, hlines, h.isScannable_eq.trans hs]
  cases languages.get? whole.language <;> rfl

/-- Where `n` lines are there and the next is not, these are the lines that are read, and another
document with the same lines goes on from them. -/
theorem exists_linesFrom_eq_append {i n count : Nat} (hn : n < count)
    (hgone : d.lineText (i + n) = none) (habove : ∀ j < n, (d.lineText (i + j)).isSome)
    (hsame : ∀ j < n, whole.lineText (i + j) = d.lineText (i + j)) :
    (d.linesFrom i count).length = n ∧
      ∃ rest, whole.linesFrom i count = d.linesFrom i count ++ rest := by
  induction n generalizing i count with
  | zero =>
    obtain ⟨count, rfl⟩ := Nat.exists_eq_add_one.mpr hn
    have hnil : d.linesFrom i (count + 1) = [] := by
      rw [linesFrom]
      simp only [show d.lineText i = none from hgone]
    exact ⟨by rw [hnil]; rfl, whole.linesFrom i (count + 1), by rw [hnil, List.nil_append]⟩
  | succ n ih =>
    obtain ⟨count, rfl⟩ := Nat.exists_eq_add_one.mpr (Nat.zero_lt_of_lt hn)
    obtain ⟨t, ht⟩ := Option.isSome_iff_exists.mp (habove 0 (Nat.zero_lt_succ n))
    have hwhole : whole.lineText i = some t := (hsame 0 (Nat.zero_lt_succ n)).trans ht
    have hnext : ∀ j, i + 1 + j = i + (j + 1) := fun j => by omega
    have hgone' : d.lineText (i + 1 + n) = none := by rw [hnext]; exact hgone
    have habove' : ∀ j < n, (d.lineText (i + 1 + j)).isSome := by
      intro j hj
      rw [hnext]
      exact habove (j + 1) (Nat.succ_lt_succ hj)
    have hsame' : ∀ j < n, whole.lineText (i + 1 + j) = d.lineText (i + 1 + j) := by
      intro j hj
      rw [hnext]
      exact hsame (j + 1) (Nat.succ_lt_succ hj)
    obtain ⟨hlength, rest, hrest⟩ := ih (Nat.lt_of_succ_lt_succ hn) hgone' habove' hsame'
    have hlines : d.linesFrom i (count + 1) = t :: d.linesFrom (i + 1) count := by
      rw [linesFrom]
      simp only [show d.lineText i = some t from ht]
    refine ⟨by rw [hlines, List.length_cons, hlength], rest, ?_⟩
    rw [hlines, linesFrom]
    simp only [hwhole, hrest, List.cons_append]

end Source

namespace TagSet

/-- What is found on the first lines is what is found with smaller numbers than the others have. -/
theorem filter_findAll_append (tags : TagSet) (id : DocumentId) (m : Markers) (state : BlockState)
    (i : Nat) (lines rest : List Text) :
    (tags.findAll id m state i (lines ++ rest)).filter (fun t => t.line < i + lines.length) =
      tags.findAll id m state i lines := by
  have hfirst : (tags.findAll id m state i lines).filter (fun t => t.line < i + lines.length) =
      tags.findAll id m state i lines := by
    rw [List.filter_eq_self]
    intro t ht
    obtain ⟨k, line, c, found, hline, -, rfl⟩ := exists_of_mem_findAll ht
    have hk : k < lines.length := (List.getElem?_eq_some_iff.mp hline).1
    exact decide_eq_true (Nat.add_lt_add_left hk i)
  have hlast : (tags.findAll id m (m.stateAfter state lines) (i + lines.length) rest).filter
      (fun t => t.line < i + lines.length) = [] := by
    rw [List.filter_eq_nil_iff]
    intro t ht
    rw [decide_eq_true_eq, Nat.not_lt]
    exact le_line_of_mem_findAll ht
  rw [findAll_append, List.filter_append, hfirst, hlast, List.append_nil]

end TagSet

namespace Scanner

/-- A scan during which the document goes away changes nothing and tells nothing. It returns what
a scan of the undisturbed document, which completes, returns first: all the tags above the line
that was missing, those in a block comment that is still open there included. -/
theorem scan_interrupted (s : Scanner) {d : Source} {k : Nat} (hscannable : d.isScannable = true)
    {m : Markers} (hm : s.languages.get? d.language = some m) (hgone : d.GoesAwayAt k) :
    (s.scan d).scanner = s ∧ (s.scan d).events = [] ∧
      ∀ whole : Source, whole.Undisturbed d k →
        whole.completes s.languages = true ∧ (s.scan d).answer <+: (s.scan whole).answer ∧
          (s.scan d).answer = (s.scan whole).answer.filter fun t => t.line < k := by
  have hscan : s.scan d = ⟨d.found s.languages s.tags, s, []⟩ := by
    rw [scan_eq, hgone.not_completes hm]
    rfl
  refine ⟨by rw [hscan], by rw [hscan], ?_⟩
  intro whole hwhole
  obtain ⟨hlength, rest, hrest⟩ : (d.linesFrom 0 d.lineCount).length = k ∧
      ∃ rest, whole.linesFrom 0 d.lineCount = d.linesFrom 0 d.lineCount ++ rest := by
    apply Source.exists_linesFrom_eq_append hgone.lt_lineCount
    · simpa using hgone.gone
    · simpa using hgone.above
    · simpa using hwhole.lines_eq
  have hwholeFound : whole.found s.languages s.tags =
      s.tags.findAll d.id m .outside 0 (d.linesFrom 0 d.lineCount ++ rest) := by
    rw [Source.found_of_scannable (hwhole.isScannable_eq.trans hscannable)
      (hwhole.language_eq ▸ hm), hwhole.id_eq, hwhole.lineCount_eq, hrest]
  have hfilter := s.tags.filter_findAll_append d.id m .outside 0 (d.linesFrom 0 d.lineCount) rest
  rw [hlength, Nat.zero_add] at hfilter
  rw [scan_answer, scan_answer, Source.found_of_scannable hscannable hm, hwholeFound]
  exact ⟨hwhole.completes hscannable s.languages, ⟨_, (TagSet.findAll_append _ _ _ _).symm⟩,
    hfilter.symm⟩

/-- A script of which only some first lines are left. -/
def scriptLeft (lines : List Text) (left : Nat) : Source where
  id := "a.js"
  language := "javascript"
  lineCount := lines.length
  lineText := fun i => (lines.take left)[i]?
  isScannable := true

/-- The script goes away inside a block comment, and what was known of it before stays. -/
theorem scan_interrupted_insideComment :
    let old : FoundTag := ⟨"a.js", .onLine 0 3 7, "// NOTE".toList, "NOTE", [], 0⟩
    let s := (standard.keep "a.js" [old]).scanner
    let lines := ["f(); /* TODO: a".toList, "FIXME b".toList, "NOTE: c */".toList]
    (scriptLeft lines 2).GoesAwayAt 2 ∧ (scriptLeft lines 3).Undisturbed (scriptLeft lines 2) 2 ∧
      (s.scan (scriptLeft lines 2)).scanner.cache.get "a.js" = [old] ∧
      (s.scan (scriptLeft lines 2)).answer.map FoundTag.tag = ["TODO", "FIXME"] ∧
      ((s.scan (scriptLeft lines 3)).answer.filter fun t => t.line < 2).map FoundTag.tag =
        ["TODO", "FIXME"] := by
  intro old s lines
  have hgone : (scriptLeft lines 2).GoesAwayAt 2 := ⟨by decide, by decide, by decide⟩
  have hwhole : (scriptLeft lines 3).Undisturbed (scriptLeft lines 2) 2 :=
    ⟨rfl, rfl, rfl, rfl, by decide, by decide⟩
  have hm : s.languages.get? "javascript" = some (.lineAndBlock "//" "/*" "*/") := by decide
  obtain ⟨hstays, -, hbegins⟩ := scan_interrupted s (d := scriptLeft lines 2) rfl hm hgone
  have hanswer : (s.scan (scriptLeft lines 2)).answer.map FoundTag.tag = ["TODO", "FIXME"] := by
    have hplain : ∀ tag ∈ Tag.standard, tag.pattern = none := by decide
    have hfirst : s.tags.find? "f(); /* TODO: a".toList ⟨" TODO: a".toList, 7⟩ =
        some ⟨.named "TODO", "a".toList, 8, 15⟩ :=
      (TagSet.find?_compile_plain hplain (by decide) (by decide)).trans (by decide +kernel)
    have hsecond : s.tags.find? "FIXME b".toList ⟨"FIXME b".toList, 0⟩ =
        some ⟨.named "FIXME", "b".toList, 0, 7⟩ :=
      (TagSet.find?_compile_plain hplain (by decide) (by decide)).trans (by decide +kernel)
    have hlines : (scriptLeft lines 2).linesFrom 0 3 =
        ["f(); /* TODO: a".toList, "FIXME b".toList] := by decide
    have hopening : (Markers.lineAndBlock "//" "/*" "*/").locate .outside "f(); /* TODO: a".toList =
        (some ⟨" TODO: a".toList, 7⟩, ⟨some "*/".toList⟩) := by decide
    have hinside : (Markers.lineAndBlock "//" "/*" "*/").locate ⟨some "*/".toList⟩
        "FIXME b".toList = (some ⟨"FIXME b".toList, 0⟩, ⟨some "*/".toList⟩) := by decide
    rw [scan_answer, Source.found_of_scannable rfl hm]
    change (s.tags.findAll "a.js" _ .outside 0 ((scriptLeft lines 2).linesFrom 0 3)).map _ = _
    rw [hlines]
    simp only [TagSet.findAll, hopening, hinside, Option.bind_some, hfirst, hsecond]
    rfl
  refine ⟨hgone, hwhole, ?_, hanswer, ?_⟩
  · rw [hstays]
    decide
  · rw [← (hbegins _ hwhole).2.2]
    exact hanswer

end Scanner

end CommentTags
