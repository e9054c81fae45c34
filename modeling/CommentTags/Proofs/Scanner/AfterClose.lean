import CommentTags.Proofs.Buffer.LineEdit
import CommentTags.Proofs.Comment.Close
import CommentTags.Proofs.Scanner.Concatenation
import CommentTags.Proofs.Tag.PlainSearch
import CommentTags.Proofs.Text.Blank

/-!
Text after the end of a block comment. Whatever is written there, all comments of the document
stay where they are, and so do the tags without a pattern that are found in them.
-/
namespace CommentTags

variable {c : Comment} {kept : Text}

theorem Comment.liesOn_append (h : c.liesOn kept = true) (rest : Text) :
    c.liesOn (kept ++ rest) = true := by
  obtain ⟨before, after, rfl, hb⟩ := liesOn_iff.mp h
  exact liesOn_iff.mpr ⟨before, after ++ rest, by simp only [List.append_assoc], hb⟩

theorem Comment.isUnbroken_of_liesOn (h : c.liesOn kept = true) (hkept : kept.IsUnbroken) :
    c.text.IsUnbroken := by
  obtain ⟨before, after, rfl, -⟩ := liesOn_iff.mp h
  exact (Text.isUnbroken_append.mp (Text.isUnbroken_append.mp hkept).1).2

/-- The columns of a tag without a pattern do not depend on how the line goes on after the
comment. -/
theorem Tag.plainMatch?_append (tag : Tag) (h : c.liesOn kept = true) (rest : Text) :
    tag.plainMatch? (kept ++ rest) c = tag.plainMatch? kept c := by
  obtain ⟨before, after, rfl, hb⟩ := Comment.liesOn_iff.mp h
  rw [plainMatch?, plainMatch?]
  cases hi : Text.likeIndex? tag.name.toList c.text with
  | none => rfl
  | some i =>
    have hcolumn : ∀ more, Text.columnAt (before ++ c.text ++ more) c.offset = before.length := by
      intro more
      rw [← hb, List.append_assoc, Text.columnAt_append]
    have hstop : ∀ more, min (before.length + i + (Text.trim (c.text.drop i)).length)
        (before ++ c.text ++ more).length =
          before.length + i + (Text.trim (c.text.drop i)).length := by
      intro more
      have htrim := Text.add_length_trim_drop_le (Text.likeIndex?_le hi)
      rw [List.length_append, List.length_append]
      omega
    rw [List.append_assoc _ after rest]
    simp only [Option.map_some, hcolumn, hstop]

namespace TagSet

variable {tags : List Tag}

theorem find?_append (hplain : ∀ tag ∈ tags, tag.pattern = none) (h : c.liesOn kept = true)
    (hline : '\n' ∉ c.text) (rest : Text) :
    (compile tags).1.find? (kept ++ rest) c = (compile tags).1.find? kept c := by
  have hfinders : (compile tags).1.finders =
      (tags.filter Tag.isNamed).map fun tag => ⟨tag, .likeText tag.name.toList⟩ :=
    compileFrom_plain hplain 0
  have hrest : c.liesOn (kept ++ rest) = true := Comment.liesOn_append h rest
  rw [find?, find?, if_pos h, if_pos hrest, hfinders, List.findSome?_map, List.findSome?_map]
  congr 1
  funext tag
  have hnew : Finder.find? ⟨tag, .likeText tag.name.toList⟩ (kept ++ rest) c =
      tag.plainMatch? (kept ++ rest) c := Finder.find?_plain rfl hrest hline
  have hold : Finder.find? ⟨tag, .likeText tag.name.toList⟩ kept c = tag.plainMatch? kept c :=
    Finder.find?_plain rfl h hline
  exact hnew.trans ((tag.plainMatch?_append h rest).trans hold.symm)

end TagSet

namespace FoundTag

/-- The tag with another text for its line, if it is on line `i`. -/
def withLine (i : Nat) (text : Text) (t : FoundTag) : FoundTag :=
  if t.line = i then { t with lineText := text } else t

theorem withLine_ofMatch (id : DocumentId) (i : Nat) (line text : Text) (m : TagMatch) :
    withLine i text (ofMatch id i line m) = ofMatch id i text m := if_pos rfl

theorem map_withLine_of_ne {i : Nat} {ts : List FoundTag} (h : ∀ t ∈ ts, t.line ≠ i)
    (text : Text) : ts.map (withLine i text) = ts := by
  have hsame : ∀ t ∈ ts, withLine i text t = t := fun t ht => if_neg (h t ht)
  rw [List.map_congr_left hsame, List.map_id']

end FoundTag

section Edit

variable {m : Markers} {state : BlockState} {lines : List Text} {i : Nat} {line new : Text}

theorem Markers.locateAll_append (state : BlockState) (lines more : List Text) :
    m.locateAll state (lines ++ more) =
      m.locateAll state lines ++ m.locateAll (m.stateAfter state lines) more := by
  induction lines generalizing state with
  | nil => rfl
  | cons line rest ih =>
    rw [List.cons_append, locateAll, locateAll, ih]
    rfl

/-- The lines around one of them. -/
theorem exists_set_eq (hline : lines[i]? = some line) : ∃ before after,
    before = lines.take i ∧ before.length = i ∧ lines = before ++ line :: after ∧
      ∀ new, lines.set i new = before ++ new :: after := by
  obtain ⟨hi, hat⟩ := List.getElem?_eq_some_iff.mp hline
  refine ⟨lines.take i, lines.drop (i + 1), rfl, List.length_take_of_le (Nat.le_of_lt hi), ?_, ?_⟩
  · rw [← hat, List.getElem_cons_drop, List.take_append_drop]
  · intro new
    rw [List.set_eq_take_append_cons_drop, if_pos hi]

/-- Where a line holds the same comment as before and leaves the same state, all others do. -/
theorem Markers.locateAll_set (hline : lines[i]? = some line)
    (h : m.locate (m.stateAfter state (lines.take i)) new =
      m.locate (m.stateAfter state (lines.take i)) line) :
    m.locateAll state (lines.set i new) = m.locateAll state lines := by
  obtain ⟨before, after, hbefore, -, hlines, hset⟩ := exists_set_eq hline
  rw [← hbefore] at h
  rw [hset, hlines, locateAll_append, locateAll_append, locateAll, locateAll, h]

/-- Where a line holds the same comment as before and the same tag is found in it, nothing but
the text of the line changes. -/
theorem TagSet.findAll_set {tags : TagSet} (id : DocumentId) (hline : lines[i]? = some line)
    (hlocate : m.locate (m.stateAfter state (lines.take i)) new =
      m.locate (m.stateAfter state (lines.take i)) line)
    (hfind : ∀ c, (m.locate (m.stateAfter state (lines.take i)) line).1 = some c →
      tags.find? new c = tags.find? line c) :
    tags.findAll id m state 0 (lines.set i new) =
      (tags.findAll id m state 0 lines).map (FoundTag.withLine i new) := by
  obtain ⟨before, after, hbefore, rfl, hlines, hset⟩ := exists_set_eq hline
  rw [← hbefore] at hlocate hfind
  have hearlier : ∀ t ∈ tags.findAll id m state 0 before, t.line ≠ before.length := by
    intro t ht
    obtain ⟨k, other, c, found, hk, -, rfl⟩ := exists_of_mem_findAll ht
    have hlt : k < before.length := (List.getElem?_eq_some_iff.mp hk).1
    change 0 + k ≠ before.length
    omega
  have hlater : ∀ state', ∀ t ∈ tags.findAll id m state' (before.length + 1) after,
      t.line ≠ before.length := by
    intro state' t ht
    have hle := le_line_of_mem_findAll ht
    omega
  have hhere : ((m.locate (m.stateAfter state before) new).1.bind (tags.find? new)).map
        (FoundTag.ofMatch id before.length new) =
      (((m.locate (m.stateAfter state before) line).1.bind (tags.find? line)).map
        (FoundTag.ofMatch id before.length line)).map (FoundTag.withLine before.length new) := by
    have hmatch : FoundTag.withLine before.length new ∘ FoundTag.ofMatch id before.length line =
        FoundTag.ofMatch id before.length new :=
      funext fun found => FoundTag.withLine_ofMatch id before.length line new found
    rw [Option.map_map, hmatch, hlocate]
    cases hc : (m.locate (m.stateAfter state before) line).1 with
    | none => rfl
    | some c => rw [Option.bind_some, Option.bind_some, hfind c hc]
  rw [hset, hlines, findAll_append, findAll_append, Nat.zero_add, findAll, findAll,
    List.map_append, List.map_append, FoundTag.map_withLine_of_ne hearlier, hhere, hlocate,
    Option.toList_map, FoundTag.map_withLine_of_ne (hlater _)]

end Edit

namespace Document

variable {d : Document} {i : Nat} {line new : Text}

theorem exists_line_of_lineTexts (h : d.lineTexts[i]? = some line) :
    ∃ l, d.buffer.line? i = some l ∧ l.text = line := by
  rw [lineTexts, List.getElem?_map] at h
  exact Option.map_eq_some_iff.mp h

theorem isUnbroken_of_lineTexts (h : d.lineTexts[i]? = some line) : line.IsUnbroken := by
  obtain ⟨l, hl, rfl⟩ := exists_line_of_lineTexts h
  exact Text.isUnbroken_of_mem_lines (List.mem_of_getElem? hl)

theorem mem_chars_of_lineTexts (h : d.lineTexts[i]? = some line) {c : Char} (hc : c ∈ line) :
    c ∈ d.buffer.chars := by
  obtain ⟨l, hl, rfl⟩ := exists_line_of_lineTexts h
  rw [Buffer.chars_eq_around_line hl]
  simp only [List.mem_append]
  exact .inr (.inl hc)

theorem isEmpty_eq_false_of_lineTexts (h : d.lineTexts[i]? = some line) (hline : line ≠ []) :
    d.buffer.isEmpty = false := by
  rw [Buffer.isEmpty, List.isEmpty_eq_false_iff]
  intro hnil
  have hmem := List.mem_of_getElem? h
  rw [lineTexts, Buffer.lines, hnil] at hmem
  exact hline (List.mem_singleton.mp hmem)

theorem isScannable_withBuffer {buffer : Buffer} (hempty : buffer.isEmpty = d.buffer.isEmpty)
    (hnul : buffer.hasNul = d.buffer.hasNul) : (d.withBuffer buffer).isScannable = d.isScannable := by
  rw [isScannable, isScannable, withBuffer]
  simp only [hempty, hnul]

/-- An edit of a line leaves the document what it was, but for the text of that line. -/
theorem exists_replaceLine (h : d.lineTexts[i]? = some line) (hline : line ≠ [])
    (hnew : new.IsUnbroken) (hne : new ≠ []) (hnul : '\x00' ∉ d.buffer.chars)
    (hnulNew : '\x00' ∉ new) :
    ∃ buffer, d.replaceLine i new = .ok (line, d.withBuffer buffer) ∧
      (d.withBuffer buffer).lineTexts = d.lineTexts.set i new ∧
      (d.withBuffer buffer).isScannable = d.isScannable := by
  obtain ⟨l, hl, rfl⟩ := exists_line_of_lineTexts h
  obtain ⟨buffer, hreplace, hlines, hchars⟩ :=
    Buffer.lines_replaceLine hl hnew fun hcloses => hne hcloses.1
  have hset : (d.withBuffer buffer).lineTexts = d.lineTexts.set i new := by
    change buffer.lines.map Line.text = _
    rw [hlines, List.map_set]
    rfl
  have hthere : (d.withBuffer buffer).lineTexts[i]? = some new := by
    rw [hset, List.getElem?_set_self (List.getElem?_eq_some_iff.mp h).1]
  have hempty : buffer.isEmpty = d.buffer.isEmpty :=
    (isEmpty_eq_false_of_lineTexts hthere hne).trans (isEmpty_eq_false_of_lineTexts h hline).symm
  have hhas : buffer.hasNul = d.buffer.hasNul := by
    have hnone : '\x00' ∉ buffer.chars := by
      intro hc
      rcases hchars _ hc with hc | hc
      · exact hnul hc
      · exact hnulNew hc
    rw [Buffer.hasNul, Buffer.hasNul, List.contains_eq_mem, List.contains_eq_mem,
      decide_eq_false hnone, decide_eq_false hnul]
  refine ⟨buffer, ?_, hset, isScannable_withBuffer hempty hhas⟩
  rw [replaceLine, hreplace]
  rfl

end Document

namespace Markers

/-- What is kept of a line on which a block comment ends holds at least the end. -/
theorem Closes.ne_nil {m : Markers} {state : BlockState} {line : Text} (hm : m.isProper = true)
    (hleaves : m.Leaves state) (h : m.Closes state line kept) : kept ≠ [] := by
  cases h with
  | openedBefore hp hcut =>
    obtain ⟨b, hb, rfl⟩ := hleaves _ hp
    exact List.append_ne_nil_of_right_ne_nil _ (closing_ne_nil hm hb).2
  | openedHere hb _ _ _ =>
    intro hnil
    have hopening := (List.append_eq_nil_iff.mp (List.append_eq_nil_iff.mp hnil).2).1
    exact (closing_ne_nil hm hb).1 hopening

end Markers

namespace Scanner

/-- What follows the end of a block comment on a line is never looked at. In a language that is
built in, or that a user gave with a line marker no longer than its two block markers together, it
can be exchanged for anything that stays on the line: all comments of the document and the states
between the lines are the same, and a scan finds the same tags without a pattern at the same
places. Only the text of that line is another. -/
theorem scan_replaceLine_of_closes (s : Scanner) {tags : List Tag}
    (hplain : ∀ tag ∈ tags, tag.pattern = none) (htags : s.tags = (TagSet.compile tags).1)
    {d : Document} {m : Markers} (hm : s.languages.get? d.language = some m)
    (hfits : (∃ name, (name, m) ∈ Languages.builtin) ∨
      (∃ name line opening closing, Markers.custom name line opening closing = .ok m) ∧
        m.lineFits = true)
    (hnul : '\x00' ∉ d.buffer.chars) {i : Nat} {line kept fresh : Text}
    (hline : d.lineTexts[i]? = some line)
    (hcloses : m.Closes (m.stateAfter .outside (d.lineTexts.take i)) line kept)
    (hfresh : '\n' ∉ fresh ∧ '\r' ∉ fresh ∧ '\x00' ∉ fresh) :
    ∃ edited, d.replaceLine i (kept ++ fresh) = .ok (line, edited) ∧
      edited.lineTexts = d.lineTexts.set i (kept ++ fresh) ∧
      m.locateAll .outside edited.lineTexts = m.locateAll .outside d.lineTexts ∧
      (s.scan edited.source).answer =
        (s.scan d.source).answer.map (FoundTag.withLine i (kept ++ fresh)) := by
  have hproper : m.isProper = true ∧ m.lineFits = true := by
    rcases hfits with ⟨name, hmem⟩ | ⟨⟨name, given, opening, closing, hcustom⟩, hfits⟩
    · exact ⟨Markers.isProper_of_mem_builtin hmem, Markers.lineFits_of_mem_builtin hmem⟩
    · exact ⟨Markers.isProper_custom hcustom, hfits⟩
  have hleaves : m.Leaves (m.stateAfter .outside (d.lineTexts.take i)) :=
    Markers.leaves_stateAfter (fun closing hc => by cases hc) _
  have hkept : kept ≠ [] := hcloses.ne_nil hproper.1 hleaves
  obtain ⟨rest, rfl⟩ := hcloses.prefix_line
  obtain ⟨c, hc, hlocate⟩ := hcloses.exists_locate hproper.2
  have hunbroken : kept.IsUnbroken :=
    (Text.isUnbroken_append.mp (Document.isUnbroken_of_lineTexts hline)).1
  have hnew : (kept ++ fresh).IsUnbroken :=
    Text.isUnbroken_append.mpr ⟨hunbroken, hfresh.1, hfresh.2.1⟩
  have hnulNew : '\x00' ∉ kept ++ fresh := by
    intro h
    rcases List.mem_append.mp h with h | h
    · exact hnul (Document.mem_chars_of_lineTexts hline (List.mem_append_left rest h))
    · exact hfresh.2.2 h
  obtain ⟨buffer, hreplace, hset, hscannable⟩ :=
    Document.exists_replaceLine hline (List.append_ne_nil_of_left_ne_nil hkept rest) hnew
      (List.append_ne_nil_of_left_ne_nil hkept fresh) hnul hnulNew
  have hsame := (hlocate fresh).trans (hlocate rest).symm
  have hcomments : m.locateAll .outside (d.withBuffer buffer).lineTexts =
      m.locateAll .outside d.lineTexts := by
    rw [hset]
    exact Markers.locateAll_set hline hsame
  have hfind : ∀ c', (m.locate (m.stateAfter .outside (d.lineTexts.take i)) (kept ++ rest)).1 =
      some c' → s.tags.find? (kept ++ fresh) c' = s.tags.find? (kept ++ rest) c' := by
    intro c' hc'
    rw [hlocate] at hc'
    cases hc'
    have htext : '\n' ∉ c.text := (Comment.isUnbroken_of_liesOn hc hunbroken).1
    rw [htags, TagSet.find?_append hplain hc htext, TagSet.find?_append hplain hc htext]
  have hfound : s.tags.findAll d.id m .outside 0 (d.withBuffer buffer).lineTexts =
      (s.tags.findAll d.id m .outside 0 d.lineTexts).map (FoundTag.withLine i (kept ++ fresh)) := by
    rw [hset]
    exact TagSet.findAll_set d.id hline hsame hfind
  refine ⟨d.withBuffer buffer, hreplace, hset, hcomments, ?_⟩
  have hlanguage : (d.withBuffer buffer).language = d.language := rfl
  rw [scan_answer, scan_answer, Document.found_source, Document.found_source, hscannable,
    hlanguage, hm]
  split
  · exact hfound
  · rfl

/-- After a block comment that an earlier line opened, code gives way to what looks like the
beginning of two comments. -/
theorem scan_replaceLine_after_note :
    let d := Document.ofText "a.js" "javascript" "f(); /* TODO x\r\n NOTE: y */ g();\n".toList
    let new := " NOTE: y */ /* // FIXME".toList
    let m := Markers.lineAndBlock "//" "/*" "*/"
    ∃ edited, d.replaceLine 1 new = .ok (" NOTE: y */ g();".toList, edited) ∧
      (m.locateAll .outside edited.lineTexts).map Prod.fst =
        [some ⟨" TODO x".toList, 7⟩, some ⟨" NOTE: y ".toList, 0⟩, none] ∧
      (standard.scan edited.source).answer =
        (standard.scan d.source).answer.map (FoundTag.withLine 1 new) := by
  intro d new m
  have hm : standard.languages.get? d.language = some m := by decide
  have hplain : ∀ tag ∈ Tag.standard, tag.pattern = none := by decide
  have hpending : (m.stateAfter .outside (d.lineTexts.take 1)).pending = some "*/".toList := by
    decide
  have hcut : Text.cut? " NOTE: y */ g();".toList "*/".toList =
      some (" NOTE: y ".toList, " g();".toList) := by decide
  have hcloses : m.Closes (m.stateAfter .outside (d.lineTexts.take 1)) " NOTE: y */ g();".toList
      " NOTE: y */".toList := .openedBefore hpending hcut
  have hline : d.lineTexts[1]? = some " NOTE: y */ g();".toList := by decide
  have hfresh : '\n' ∉ " /* // FIXME".toList ∧ '\r' ∉ " /* // FIXME".toList ∧
      '\x00' ∉ " /* // FIXME".toList := by decide
  obtain ⟨edited, hreplace, -, hcomments, hscan⟩ :=
    scan_replaceLine_of_closes standard hplain rfl hm (.inl ⟨"javascript", by decide⟩) (by decide)
      hline hcloses hfresh
  exact ⟨edited, hreplace, by rw [hcomments]; decide, hscan⟩

end Scanner

end CommentTags
