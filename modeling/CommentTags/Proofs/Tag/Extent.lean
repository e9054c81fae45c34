import CommentTags.Proofs.Scanner.Lines
import CommentTags.Proofs.Tag.Custom
import CommentTags.Proofs.Text.Blank

/-!
Where the range of a match lies. It begins where the name of the tag stands in the comment, or else
at the matched text, and it is as long as the matched text. So it stays in the comment unless the
name stands further on than the text that a pattern of the tag's own matched, and for a tag without
a pattern it selects the text from the name on unless the name begins with white space.
-/
namespace CommentTags

namespace Text

/-- The characters from one column up to another. -/
def between (t : Text) (start stop : Nat) : Text :=
  (t.drop start).take (stop - start)

variable {name t : Text}

theorem length_of_cut? {needle : Text} {s : Text × Text} (h : t.cut? needle = some s) :
    s.1.length + needle.length + s.2.length = t.length := by
  have hlength := congrArg List.length (eq_append_of_cut? h)
  rw [List.length_append, List.length_append] at hlength
  exact hlength.symm

/-- There is no occurrence of a name further left than the first. -/
theorem likeIndex?_min {i n : Nat} (h : likeIndex? name t = some i)
    (hstarts : startsLike name (t.drop n) = true) : i ≤ n := by
  obtain ⟨-, -, hfirst⟩ := List.find?_range_eq_some.mp h
  by_contra hlt
  have hnone := hfirst n (Nat.lt_of_not_le hlt)
  rw [hstarts] at hnone
  cases hnone

theorem startsLike_of_likeIndex? {i : Nat} (h : likeIndex? name t = some i) :
    startsLike name (t.drop i) = true :=
  (List.find?_range_eq_some.mp h).1

theorem map_fold_prefix_of_startsLike (h : startsLike name t = true) :
    name.map fold <+: t.map fold :=
  List.isPrefixOf_iff_prefix.mp h

theorem beginsBlank_map_fold (t : Text) : beginsBlank (t.map fold) = t.beginsBlank := by
  cases t with
  | nil => rfl
  | cons c t => exact isBlank_fold c

/-- A text begins with white space if the name it begins with does. -/
theorem beginsBlank_of_startsLike (h : startsLike name t = true) (hne : name ≠ []) :
    t.beginsBlank = name.beginsBlank := by
  have hmap : name.map fold ≠ [] := fun hnil => hne (List.map_eq_nil_iff.mp hnil)
  rw [← beginsBlank_map_fold t, ← beginsBlank_map_fold name,
    beginsBlank_of_prefix (map_fold_prefix_of_startsLike h) hmap]

/-- The text from a name on is not all white space. -/
theorem trim_ne_nil_of_startsLike (h : startsLike name t = true) (hname : trim name ≠ []) :
    trim t ≠ [] := by
  intro hnil
  apply hname
  rw [trim_eq_nil_iff] at hnil ⊢
  intro c hc
  have hmem : fold c ∈ t.map fold :=
    (map_fold_prefix_of_startsLike h).subset (List.mem_map_of_mem hc)
  obtain ⟨d, hd, hfold⟩ := List.mem_map.mp hmem
  rw [← isBlank_fold c, ← hfold, isBlank_fold d]
  exact hnil d hd

end Text

namespace Comment

variable {c : Comment} {line : Text}

/-- The column at which a comment ends. -/
theorem columnAt_stop (h : c.liesOn line = true) :
    Text.columnAt line (c.offset + c.text.bytes) =
      Text.columnAt line c.offset + c.text.length := by
  have hwhole := columnAt_take h (Nat.le_refl c.text.length)
  rwa [List.take_length] at hwhole

/-- What stands in a comment stands on its line, so many columns further on. -/
theorem between_eq (h : c.liesOn line = true) {i n : Nat} (hle : i + n ≤ c.text.length) :
    line.between (Text.columnAt line c.offset + i)
      (min (Text.columnAt line c.offset + i + n) line.length) = (c.text.drop i).take n := by
  obtain ⟨before, after, rfl, hb⟩ := liesOn_iff.mp h
  have hcolumn : Text.columnAt (before ++ c.text ++ after) c.offset = before.length := by
    rw [← hb, List.append_assoc, Text.columnAt_append]
  have hstop : min (before.length + i + n) (before ++ c.text ++ after).length =
      before.length + i + n := by
    simp only [List.length_append]
    omega
  rw [hcolumn, hstop, Text.between, Nat.add_sub_cancel_left, List.append_assoc,
    List.drop_length_add_append, List.drop_append_of_le_length (by omega),
    List.take_append_of_le_length]
  rw [List.length_drop]
  omega

end Comment

theorem Cursor.finish_of_rest_eq_nil {c : Cursor} (h : c.rest = []) : c.finish = c := by
  rw [finish, h]
  rfl

/-- The annotation goes on to the end of the text. -/
theorem rest_of_mem_remainder_ends {c e : Cursor} (h : e ∈ remainder.ends c) : e.rest = [] := by
  obtain ⟨d, -, he⟩ := List.mem_flatMap.mp (Pattern.mem_of_mem_distinct h)
  rw [Pattern.ends] at he
  split at he
  case isTrue hstop =>
    rw [List.mem_singleton.mp he]
    exact List.isEmpty_iff.mp hstop
  case isFalse => cases he

namespace Finder

variable {f : Finder} {t matched : Text} {start annotated stop : Cursor}

/-- A match begins where the tag's pattern has one, and it goes on to the end of the text. -/
theorem exists_of_split? (h : f.split? t = some (start, annotated, stop)) :
    ∃ n ≤ t.length, start = (Cursor.atStart t).advance n ∧ start.Reaches annotated ∧
      stop = (Cursor.atStart t).finish ∧ ∃ e, e ∈ f.subject.ends start := by
  rw [split?, Pattern.findSplit?, Pattern.search_eq_findSome?] at h
  obtain ⟨n, hn, h⟩ := List.exists_of_findSome?_eq_some h
  obtain ⟨m, hm, h⟩ := List.exists_of_findSome?_eq_some h
  obtain ⟨e, he, h⟩ := Option.map_eq_some_iff.mp h
  cases h
  have hstop : stop ∈ remainder.ends annotated := List.mem_of_head? he
  have hreach : (Cursor.atStart t).Reaches stop :=
    Cursor.Reaches.trans ⟨n, rfl⟩ ((Pattern.ends_reaches _ hm).trans (Pattern.ends_reaches _ hstop))
  obtain ⟨e, he, -⟩ := List.mem_flatMap.mp (Pattern.mem_of_mem_distinct hm)
  refine ⟨n, Nat.lt_succ_iff.mp (List.mem_range.mp hn), rfl, Pattern.ends_reaches _ hm, ?_, e, he⟩
  rw [← hreach.finish_eq, Cursor.finish_of_rest_eq_nil (rest_of_mem_remainder_ends hstop)]

/-- The text of a match, less the white space around it. -/
def matched? (f : Finder) (t : Text) : Option Text :=
  (f.split? t).map fun (start, _, stop) => Text.trim (start.rest.take (stop.index - start.index))

theorem exists_of_matched? (h : f.matched? t = some matched) :
    ∃ n ≤ t.length, matched = Text.trim (t.drop n) ∧
      ∃ e, e ∈ f.subject.ends ((Cursor.atStart t).advance n) := by
  obtain ⟨⟨start, annotated, stop⟩, hsplit, rfl⟩ := Option.map_eq_some_iff.mp h
  obtain ⟨n, hn, rfl, -, rfl, hends⟩ := exists_of_split? hsplit
  refine ⟨n, hn, ?_, hends⟩
  have hreach : (Cursor.atStart t).Reaches ((Cursor.atStart t).advance n) := ⟨n, rfl⟩
  dsimp only
  rw [hreach.take_rest, Cursor.rest_advance]
  rfl

/-- The matched text occurs in the comment. -/
theorem exists_cut?_matched (h : f.matched? t = some matched) :
    ∃ s, t.cut? matched = some s := by
  obtain ⟨n, -, rfl, -⟩ := exists_of_matched? h
  obtain ⟨before, after, hinfix⟩ : Text.trim (t.drop n) <:+: t :=
    (Text.trim_isInfix (t.drop n)).trans (List.drop_suffix n t).isInfix
  obtain ⟨s, hcut, -⟩ := Text.exists_cut?_append before (Text.trim (t.drop n)) after
  rw [← List.append_assoc, hinfix] at hcut
  exact ⟨s, hcut⟩

/-- How far into the comment the range of a match begins. -/
def place (f : Finder) (t matched : Text) : Nat :=
  match Text.likeIndex? f.tag.name.toList t with
  | some i => i
  | none => ((t.cut? matched).map fun s => s.1.length).getD 0

theorem place_le (f : Finder) (t matched : Text) : f.place t matched ≤ t.length := by
  rw [place]
  cases hi : Text.likeIndex? f.tag.name.toList t with
  | some i => exact Text.likeIndex?_le hi
  | none =>
    cases hs : t.cut? matched with
    | none => exact Nat.zero_le _
    | some s =>
      have hlength := Text.length_of_cut? hs
      simp only [Option.map_some, Option.getD_some]
      omega

theorem place_of_unnamed {s : Text × Text} (hname : Text.likeIndex? f.tag.name.toList t = none)
    (hs : t.cut? matched = some s) : f.place t matched = s.1.length := by
  rw [place, hname, hs]
  rfl

theorem startByte_eq (f : Finder) (c : Comment) (matched : Text) :
    f.startByte c matched = c.offset + Text.bytes (c.text.take (f.place c.text matched)) := by
  rw [startByte, place, nameIndex?_eq]
  cases Text.likeIndex? f.tag.name.toList c.text with
  | some i => rfl
  | none =>
    cases hs : c.text.cut? matched with
    | none => rfl
    | some s =>
      have hfront : c.text.take s.1.length = s.1 := by
        conv_lhs => rw [Text.eq_append_of_cut? hs]
        rw [List.append_assoc, List.take_left]
      simp only [Option.map_some, Option.getD_some, hfront]

variable {line : Text} {c : Comment} {m : TagMatch}

theorem exists_of_find? (hc : c.liesOn line = true) (h : f.find? line c = some m) :
    ∃ matched, f.matched? c.text = some matched ∧ m.tag = f.tag ∧
      m.startColumn = Text.columnAt line c.offset + f.place c.text matched ∧
      m.stopColumn = min (m.startColumn + matched.length) line.length := by
  obtain ⟨⟨start, annotated, stop⟩, hsplit, rfl⟩ := Option.map_eq_some_iff.mp h
  refine ⟨_, by rw [matched?, hsplit]; rfl, rfl, ?_, rfl⟩
  rw [← Comment.columnAt_take hc (place_le f c.text _), ← startByte_eq]

/-- A match whose name is not in the comment begins where the matched text does, and selects it. -/
theorem between_of_unnamed (hc : c.liesOn line = true) (h : f.find? line c = some m)
    (hname : Text.likeIndex? f.tag.name.toList c.text = none) :
    ∃ matched before after, f.matched? c.text = some matched ∧
      c.text.cut? matched = some (before, after) ∧
      f.startByte c matched = c.offset + before.bytes ∧
      line.between m.startColumn m.stopColumn = matched := by
  obtain ⟨matched, hmatched, -, hstart, hstop⟩ := exists_of_find? hc h
  obtain ⟨⟨before, after⟩, hcut⟩ := exists_cut?_matched hmatched
  have htext : c.text = before ++ matched ++ after := Text.eq_append_of_cut? hcut
  have hplace : f.place c.text matched = before.length := place_of_unnamed hname hcut
  refine ⟨matched, before, after, hmatched, hcut, ?_, ?_⟩
  · rw [startByte, nameIndex?_eq, hname, hcut]
  · have hle : before.length + matched.length ≤ c.text.length := by
      rw [htext, List.length_append, List.length_append]
      omega
    rw [hstop, hstart, hplace, Comment.between_eq hc hle, htext, List.append_assoc,
      List.drop_left, List.take_left]

/-- From the name on there is less left of the comment than the matched text is long. -/
def Overshoots (f : Finder) (t : Text) : Prop :=
  ∃ i matched, Text.likeIndex? f.tag.name.toList t = some i ∧ f.matched? t = some matched ∧
    t.length < i + matched.length

theorem place_add_le_iff (h : f.matched? t = some matched) :
    f.place t matched + matched.length ≤ t.length ↔ ¬f.Overshoots t := by
  cases hi : Text.likeIndex? f.tag.name.toList t with
  | some i =>
    have hplace : f.place t matched = i := by rw [place, hi]
    simp [Overshoots, hi, h, hplace]
  | none =>
    obtain ⟨s, hs⟩ := exists_cut?_matched h
    have hplace := place_of_unnamed hi hs
    have hlength := Text.length_of_cut? hs
    refine iff_of_true (by omega) ?_
    rintro ⟨i, -, hsome, -⟩
    rw [hi] at hsome
    cases hsome

/-- A name that is looked for as it is stands no further on than a match of it. -/
theorem not_overshoots_plain (hf : f.subject = .likeText f.tag.name.toList) (t : Text) :
    ¬f.Overshoots t := by
  rintro ⟨i, matched, hi, hmatched, hlt⟩
  obtain ⟨n, hn, rfl, e, he⟩ := exists_of_matched? hmatched
  have hstarts : Text.startsLike f.tag.name.toList (t.drop n) = true := by
    rw [hf, Pattern.ends_likeText, Cursor.rest_advance] at he
    split at he
    case isTrue hstarts => exact hstarts
    case isFalse => cases he
  have hle : i ≤ n := Text.likeIndex?_min hi hstarts
  have htrim := Text.add_length_trim_drop_le hn
  omega

end Finder

namespace TagSet

variable {tags : List Tag} {line : Text} {c : Comment} {m : TagMatch}

/-- A match was reported by one of the tags, in a comment that lies on the line. -/
theorem exists_finder_of_find? {s : TagSet} (h : s.find? line c = some m) :
    c.liesOn line = true ∧ ∃ f ∈ s.finders, f.find? line c = some m := by
  rw [find?] at h
  split at h
  case isTrue hc => exact ⟨hc, List.exists_of_findSome?_eq_some h⟩
  case isFalse => cases h

/-- The set of one accepted tag finds what its only finder does. -/
theorem find?_compile_singleton {f : Finder} (hf : f.tag.subject = .ok f.subject)
    (hc : c.liesOn line = true) : (compile [f.tag]).1.find? line c = f.find? line c := by
  have hcompile : compile [f.tag] = (⟨[f]⟩, []) := by
    rw [compile, compileFrom, hf]
    rfl
  rw [hcompile, find?, if_pos hc, List.findSome?_singleton]

/-- The name of an accepted tag without a pattern is what is looked for, and it is not all white
space. -/
theorem subject_of_plain {f : Finder} (hf : f ∈ (compile tags).1.finders)
    (hplain : f.tag.pattern = none) :
    f.subject = .likeText f.tag.name.toList ∧ Text.trim f.tag.name.toList ≠ [] := by
  have hsubject : f.tag.subject = .ok f.subject := subject_of_mem_compileFrom hf
  rw [subject_plain hplain] at hsubject
  split at hsubject
  case isTrue hnamed =>
    refine ⟨(Except.ok.inj hsubject).symm, ?_⟩
    intro hnil
    rw [Tag.isNamed, hnil] at hnamed
    cases hnamed
  case isFalse => cases hsubject

/-- The range of a match begins in the comment and does not end before it begins. It ends in the
comment too, unless code follows there and the matched text is longer than what is left of the
comment from the name on; a tag without a pattern never matches such a text. -/
theorem find?_within_iff (h : (compile tags).1.find? line c = some m) :
    Text.columnAt line c.offset ≤ m.startColumn ∧ m.startColumn ≤ m.stopColumn ∧
      ∃ f ∈ (compile tags).1.finders, f.tag = m.tag ∧ f.find? line c = some m ∧
        (m.stopColumn ≤ Text.columnAt line (c.offset + c.text.bytes) ↔
          Text.columnAt line (c.offset + c.text.bytes) = line.length ∨ ¬f.Overshoots c.text) ∧
        (f.tag.pattern = none → ¬f.Overshoots c.text) := by
  obtain ⟨hc, f, hf, hfind⟩ := exists_finder_of_find? h
  obtain ⟨matched, hmatched, htag, hstart, hstop⟩ := Finder.exists_of_find? hc hfind
  refine ⟨by omega, (find?_columns h).1, f, hf, htag.symm, hfind, ?_, ?_⟩
  · have hend : Text.columnAt line (c.offset + c.text.bytes) ≤ line.length := Text.columnAt_le _ _
    rw [← Finder.place_add_le_iff hmatched, hstop, hstart]
    rw [Comment.columnAt_stop hc] at hend ⊢
    omega
  · intro hplain
    exact Finder.not_overshoots_plain (subject_of_plain hf hplain).1 c.text

/-- A hack is marked by three letters or by the word. -/
def hackFinder : Finder :=
  ⟨⟨"HACK", some "XXX|HACK", none, none, none⟩,
    .alt (.seq (.seq (.one (.like 'X')) (.one (.like 'X'))) (.one (.like 'X')))
      (.seq (.seq (.seq (.one (.like 'H')) (.one (.like 'A'))) (.one (.like 'C')))
        (.one (.like 'K')))⟩

/-- Without its name in the comment, what the pattern matched is selected. -/
theorem find?_within_iff_temporary :
    let line := "/* XXX: temporary */".toList
    let c : Comment := ⟨" XXX: temporary ".toList, 2⟩
    let m : TagMatch := ⟨hackFinder.tag, "temporary".toList, 3, 17⟩
    (compile [hackFinder.tag]).1.find? line c = some m ∧
      Text.columnAt line (c.offset + c.text.bytes) = 18 ∧
      ∃ f ∈ (compile [hackFinder.tag]).1.finders,
        f.find? line c = some m ∧ ¬f.Overshoots c.text := by
  intro line c m
  have hfind : (compile [hackFinder.tag]).1.find? line c = some m := by
    rw [find?_compile_singleton (by decide +kernel) (by decide), Finder.find?_line _ (by decide)]
    decide +kernel
  have hend : Text.columnAt line (c.offset + c.text.bytes) = 18 := by decide
  obtain ⟨-, -, f, hf, -, hf', hwithin, -⟩ := find?_within_iff hfind
  refine ⟨hfind, hend, f, hf, hf', ?_⟩
  rw [hend] at hwithin
  exact (hwithin.mp (by decide)).resolve_left (by decide)

/-- The name further on in the comment takes the range along, over the code that follows. -/
theorem find?_leaves_comment :
    let line := "/* XXX: see HACK */ go();".toList
    let c : Comment := ⟨" XXX: see HACK ".toList, 2⟩
    ((Markers.lineAndBlock "//" "/*" "*/").locate .outside line).1 = some c ∧
      (compile [hackFinder.tag]).2 = [] ∧
      (compile [hackFinder.tag]).1.find? line c = some ⟨hackFinder.tag, "see HACK".toList, 12, 25⟩ ∧
      Text.columnAt line (c.offset + c.text.bytes) = 17 ∧
      Text.between line 17 25 = "*/ go();".toList := by
  refine ⟨by decide, by decide +kernel, ?_, by decide, by decide⟩
  rw [find?_compile_singleton (by decide +kernel) (by decide), Finder.find?_line _ (by decide)]
  decide +kernel

/-- The range of a tag without a pattern begins at the leftmost occurrence of its name and is as
long as the text from there on is without the white space around it. So it selects that text
unless the name begins with white space, which moves the range to the left of it. -/
theorem find?_selects_iff (h : (compile tags).1.find? line c = some m)
    (hplain : m.tag.pattern = none) (hline : '\n' ∉ c.text) :
    ∃ i, Text.likeIndex? m.tag.name.toList c.text = some i ∧
      m.startColumn = Text.columnAt line c.offset + i ∧
      line.between m.startColumn m.stopColumn =
        (c.text.drop i).take (Text.trim (c.text.drop i)).length ∧
      (line.between m.startColumn m.stopColumn = Text.trim (c.text.drop i) ↔
        Text.beginsBlank m.tag.name.toList = false) := by
  obtain ⟨hc, f, hf, hfind⟩ := exists_finder_of_find? h
  obtain ⟨-, -, htag, -⟩ := Finder.exists_of_find? hc hfind
  rw [htag] at hplain ⊢
  obtain ⟨hsubject, hname⟩ := subject_of_plain hf hplain
  rw [Finder.find?_plain hsubject hc hline] at hfind
  obtain ⟨i, hi, rfl⟩ := Option.map_eq_some_iff.mp hfind
  have hstarts := Text.startsLike_of_likeIndex? hi
  have hselected := Comment.between_eq hc (Text.add_length_trim_drop_le (Text.likeIndex?_le hi))
  have hne : f.tag.name.toList ≠ [] := by
    intro hnil
    rw [hnil] at hname
    exact hname rfl
  refine ⟨i, hi, rfl, hselected, ?_⟩
  rw [← Text.beginsBlank_of_startsLike hstarts hne,
    ← Text.take_trim_eq_iff (Text.trim_ne_nil_of_startsLike hstarts hname)]
  exact hselected ▸ Iff.rfl

/-- The name is found in other letters, behind characters of several bytes, and the white space at
the end of the comment is not selected. -/
theorem find?_selects_iff_note :
    let line := "é /* ü nOtE: ß  */ go()".toList
    let c : Comment := ⟨" ü nOtE: ß  ".toList, 5⟩
    (compile [.named "NOTE"]).1.find? line c = some ⟨.named "NOTE", "ß".toList, 7, 14⟩ ∧
      '\n' ∉ c.text ∧ Text.beginsBlank "NOTE".toList = false ∧
      Text.between line 7 14 = "nOtE: ß".toList := by
  intro line c
  have hsubject : (Tag.named "NOTE").subject = .ok (.likeText "NOTE".toList) := by decide
  have hfind : (compile [.named "NOTE"]).1.find? line c =
      some ⟨.named "NOTE", "ß".toList, 7, 14⟩ := by
    rw [find?_compile_singleton (f := ⟨.named "NOTE", _⟩) hsubject (by decide),
      Finder.find?_line _ (by decide)]
    decide +kernel
  have hline : '\n' ∉ c.text := by decide
  have hname : Text.beginsBlank "NOTE".toList = false := by decide
  obtain ⟨i, hi, -, -, hselects⟩ := find?_selects_iff hfind rfl hline
  have hplace : Text.likeIndex? "NOTE".toList c.text = some 3 := by decide +kernel
  obtain rfl : 3 = i := Option.some.inj (hplace.symm.trans hi)
  exact ⟨hfind, hline, hname, (hselects.mpr hname).trans (by decide)⟩

/-- A name that begins with a blank is selected with it, and the last character is left out. -/
theorem find?_selects_blank :
    let line := "#  TODO: x".toList
    let c : Comment := ⟨"  TODO: x".toList, 1⟩
    ((Markers.lineOnly "#").locate .outside line).1 = some c ∧
      (compile [.named " TODO"]).2 = [] ∧
      (compile [.named " TODO"]).1.find? line c = some ⟨.named " TODO", "x".toList, 2, 9⟩ ∧
      Text.likeIndex? " TODO".toList c.text = some 1 ∧
      Text.between line 2 9 = " TODO: ".toList ∧
      Text.trim (c.text.drop 1) = "TODO: x".toList := by
  have hsubject : (Tag.named " TODO").subject = .ok (.likeText " TODO".toList) := by decide
  refine ⟨by decide, by decide, ?_, by decide +kernel, by decide, by decide⟩
  rw [find?_compile_singleton (f := ⟨.named " TODO", _⟩) hsubject (by decide),
    Finder.find?_line _ (by decide)]
  decide +kernel

end TagSet

end CommentTags
