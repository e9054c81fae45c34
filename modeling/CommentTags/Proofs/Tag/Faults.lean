import CommentTags.Proofs.Tag.Extent

/-!
The search for tags as a machine runs it, which cuts texts at byte offsets and adds in machine
words. A cut inside a character or past the end of a text, and a sum that no word holds, would stop
it. That never happens, wherever a comment claims to stand.
-/
namespace CommentTags

/-- What stops a search: a cut inside a character or past the end of a text, or a sum that is too
large. -/
inductive Fault where
  | badCut
  | overflow
deriving DecidableEq, Repr

/-- Machine words count up to here. -/
def wordLimit : Nat := 0x10000000000000000

/-- The sum of two words, if it is one. -/
def sum? (a b : Nat) : Option Nat := if a + b < wordLimit then some (a + b) else none

theorem sum?_eq {a b : Nat} (h : a + b < wordLimit) : sum? a b = some (a + b) := if_pos h

namespace Text

/-- No text in memory has more bytes, as the sizes of what memory holds are signed words. -/
def maxBytes : Nat := 0x7FFFFFFFFFFFFFFF

/-- The sizes of two texts have a sum. -/
theorem lt_wordLimit {n : Nat} (h : n ≤ maxBytes + maxBytes) : n < wordLimit :=
  Nat.lt_of_le_of_lt h (by decide)

/-- The part of a text from one byte offset up to another, both between two of its characters. -/
def slice? (t : Text) (start stop : Nat) : Option Text :=
  if start ≤ stop then do
    let (front, _) ← t.splitAtByte? stop
    let (_, part) ← front.splitAtByte? start
    return part
  else none

/-- The byte offset of a place in a text. -/
def byteAt (t : Text) (c : Cursor) : Nat := bytes (t.take c.index)

variable {t u : Text} {i j : Nat}

theorem slice?_eq_some_iff :
    t.slice? i j = some u ↔
      ∃ before after, t = before ++ u ++ after ∧ before.bytes = i ∧ i + u.bytes = j := by
  rw [slice?]
  constructor
  · intro h
    split at h
    case isTrue =>
      obtain ⟨⟨front, after⟩, hfront, h⟩ := Option.bind_eq_some_iff.mp h
      obtain ⟨⟨before, part⟩, hpart, h⟩ := Option.bind_eq_some_iff.mp h
      cases h
      obtain ⟨ht, hj⟩ := eq_append_of_splitAtByte? hfront
      obtain ⟨hf, hi⟩ := eq_append_of_splitAtByte? hpart
      dsimp only at ht hj hf hi
      subst hf
      rw [bytes_append, hi] at hj
      exact ⟨before, after, ht, hi, hj⟩
    case isFalse => cases h
  · rintro ⟨before, after, rfl, rfl, rfl⟩
    rw [if_pos (Nat.le_add_right _ _), ← bytes_append, splitAtByte?_append]
    exact congrArg (fun s => s.bind fun s => some s.2) (splitAtByte?_append before u)

theorem le_bytes_of_slice? (h : t.slice? i j = some u) : j ≤ t.bytes := by
  obtain ⟨before, after, rfl, rfl, rfl⟩ := slice?_eq_some_iff.mp h
  rw [bytes_append, bytes_append]
  exact Nat.le_add_right _ _

/-- A text is no longer in characters than in bytes. -/
theorem length_le_bytes (t : Text) : t.length ≤ t.bytes := by
  induction t with
  | nil => exact Nat.le_refl 0
  | cons c t ih =>
    have hc := c.utf8Size_pos
    rw [List.length_cons, bytes]
    omega

end Text

namespace Cursor

variable {t : Text} {c e : Cursor}

/-- Places of a text stand between two of its characters. -/
theorem slice?_places (hc : (atStart t).Reaches c) (he : c.Reaches e) :
    t.slice? (t.byteAt c) (t.byteAt e) = some (c.rest.take (e.index - c.index)) := by
  obtain ⟨n, hn, rfl⟩ := hc.exists_le
  obtain ⟨m, hm, rfl⟩ := he.exists_le
  have hstart : ((atStart t).advance n).index = n := by
    rw [index_advance hn]
    exact Nat.zero_add n
  have hrest : ((atStart t).advance n).rest = t.drop n := rest_advance _ n
  rw [index_advance hm, hrest, Nat.add_sub_cancel_left, Text.slice?_eq_some_iff]
  refine ⟨t.take n, t.drop (n + m), ?_, ?_, ?_⟩
  · rw [← List.drop_drop, List.append_assoc, List.take_append_drop, List.take_append_drop]
  · rw [Text.byteAt, hstart]
  · rw [Text.byteAt, Text.byteAt, index_advance hm, hstart, List.take_add, Text.bytes_append]

end Cursor

namespace Comment

variable {c : Comment} {line : Text}

theorem length_le (h : c.liesOn line = true) : c.text.length ≤ line.length := by
  obtain ⟨before, after, rfl, -⟩ := liesOn_iff.mp h
  simp only [List.length_append]
  omega

/-- The line can be cut at every place of a comment that lies on it. -/
theorem exists_front (h : c.liesOn line = true) {i : Nat} (hi : i ≤ c.text.length) :
    ∃ front, line.slice? 0 (c.offset + Text.bytes (c.text.take i)) = some front ∧
      front.length = Text.columnAt line (c.offset + Text.bytes (c.text.take i)) := by
  rw [columnAt_take h hi]
  obtain ⟨before, after, rfl, hb⟩ := liesOn_iff.mp h
  refine ⟨before ++ c.text.take i, Text.slice?_eq_some_iff.mpr ⟨[], c.text.drop i ++ after, ?_,
    rfl, ?_⟩, ?_⟩
  · rw [List.nil_append, List.append_assoc, List.append_assoc, ← List.append_assoc (c.text.take i),
      List.take_append_drop]
  · rw [Nat.zero_add, Text.bytes_append, hb]
  · rw [← hb, List.append_assoc, Text.columnAt_append, List.length_append,
      List.length_take_of_le hi]

end Comment

/-- What a step yields, or the fault it runs into. -/
def orFault (fault : Fault) : Option α → Except Fault α
  | some a => .ok a
  | none => .error fault

namespace Finder

/-- The byte of the line where a match begins, summed up in machine words. -/
def startByteChecked (f : Finder) (c : Comment) (matched : Text) : Except Fault Nat :=
  match f.nameIndex? c.text with
  | some i => orFault .overflow (sum? c.offset (Text.bytes (c.text.take i)))
  | none =>
    match c.text.cut? matched with
    | some (before, _) => orFault .overflow (sum? c.offset before.bytes)
    | none => .ok c.offset

/-- The match of one tag, cut out of the comment and the line by byte offsets. -/
def findChecked (f : Finder) (line : Text) (c : Comment) : Except Fault (Option TagMatch) :=
  match f.split? c.text with
  | none => .ok none
  | some (start, annotated, stop) => do
    let whole ← orFault .badCut (c.text.slice? (c.text.byteAt start) (c.text.byteAt stop))
    let matched := Text.trim whole
    let annotation ← orFault .badCut
      (c.text.slice? (c.text.byteAt annotated) (c.text.byteAt stop))
    let startByte ← f.startByteChecked c matched
    let front ← orFault .badCut (line.slice? 0 startByte)
    let stopColumn ← orFault .overflow (sum? front.length matched.length)
    return some
      { tag := f.tag
        annotation := Text.trim annotation
        startColumn := front.length
        stopColumn := min stopColumn line.length }

variable {f : Finder} {line : Text} {c : Comment}

theorem startByteChecked_eq {matched : Text} (h : f.startByte c matched < wordLimit) :
    f.startByteChecked c matched = .ok (f.startByte c matched) := by
  rw [startByte] at h ⊢
  rw [startByteChecked]
  cases hname : f.nameIndex? c.text with
  | some i =>
    simp only [hname] at h ⊢
    rw [sum?_eq h]
    rfl
  | none =>
    cases hcut : c.text.cut? matched with
    | some s =>
      simp only [hname, hcut] at h ⊢
      rw [sum?_eq h]
      rfl
    | none => rfl

theorem length_matched_le {t matched : Text} (h : f.matched? t = some matched) :
    matched.length ≤ t.length := by
  obtain ⟨n, hn, rfl, -⟩ := exists_of_matched? h
  have htrim := Text.add_length_trim_drop_le hn
  omega

/-- In a comment that lies on the line, no cut and no sum of the search is a fault. -/
theorem findChecked_eq (hc : c.liesOn line = true) (hline : line.bytes ≤ Text.maxBytes) :
    f.findChecked line c = .ok (f.find? line c) := by
  rw [findChecked, find?]
  cases hsplit : f.split? c.text with
  | none => rfl
  | some found =>
    obtain ⟨start, annotated, stop⟩ := found
    obtain ⟨n, -, hstart, hannotated, hstop, -⟩ := exists_of_split? hsplit
    have hfirst : (Cursor.atStart c.text).Reaches start := ⟨n, hstart⟩
    have hlast : annotated.Reaches stop := by
      rw [hstop, ← (hfirst.trans hannotated).finish_eq]
      exact ⟨_, rfl⟩
    have hwhole := Cursor.slice?_places hfirst (hannotated.trans hlast)
    have hannotation := Cursor.slice?_places (hfirst.trans hannotated) hlast
    have hmatched : f.matched? c.text =
        some (Text.trim (start.rest.take (stop.index - start.index))) := by
      rw [matched?, hsplit]
      rfl
    rw [Option.map_some]
    dsimp only
    generalize start.rest.take (stop.index - start.index) = whole at *
    obtain ⟨front, hfront, hcolumn⟩ := Comment.exists_front hc (f.place_le c.text (Text.trim whole))
    rw [← startByte_eq] at hfront hcolumn
    have hbyte : f.startByte c (Text.trim whole) < wordLimit := by
      have hle := Text.le_bytes_of_slice? hfront
      exact Text.lt_wordLimit (by omega)
    -- The range may reach past the end of the line before it is cut off there, so the bound of the
    -- line does for each of the two numbers but not for their sum.
    have hsum : front.length + (Text.trim whole).length < wordLimit := by
      have hcolumns := Text.columnAt_le line (f.startByte c (Text.trim whole))
      have hlength := (length_matched_le hmatched).trans (Comment.length_le hc)
      have hbytes := line.length_le_bytes
      exact Text.lt_wordLimit (by omega)
    simp only [hwhole, hannotation, startByteChecked_eq hbyte, hfront, sum?_eq hsum, orFault,
      bind, Except.bind, ← hcolumn]
    rfl

end Finder

namespace TagSet

/-- The match of the first tag that has one. -/
def firstChecked (line : Text) (c : Comment) : List Finder → Except Fault (Option TagMatch)
  | [] => .ok none
  | f :: fs => do
    match ← f.findChecked line c with
    | some m => return some m
    | none => firstChecked line c fs

/-- The search, in a comment whose offset may be any. -/
def findChecked (s : TagSet) (line : Text) (c : Comment) : Except Fault (Option TagMatch) :=
  match sum? c.offset c.text.bytes with
  | none => .ok none
  | some stop =>
    if line.slice? c.offset stop = some c.text then firstChecked line c s.finders else .ok none

variable {s : TagSet} {line : Text} {c : Comment} {m : TagMatch}

theorem firstChecked_eq {finders : List Finder}
    (h : ∀ f ∈ finders, f.findChecked line c = .ok (f.find? line c)) :
    firstChecked line c finders = .ok (finders.findSome? fun f => f.find? line c) := by
  induction finders with
  | nil => rfl
  | cons f fs ih =>
    have hfirst := h f List.mem_cons_self
    have hrest := ih fun f hf => h f (List.mem_cons_of_mem _ hf)
    rw [firstChecked, hfirst, List.findSome?_cons]
    cases f.find? line c with
    | some m => rfl
    | none => exact hrest

/-- The comment is cut out of the line at its offset exactly if it lies there. -/
theorem liesOn_iff_slice? (hline : line.bytes ≤ Text.maxBytes) :
    c.liesOn line = true ↔
      ∃ stop, sum? c.offset c.text.bytes = some stop ∧ line.slice? c.offset stop = some c.text := by
  rw [Comment.liesOn_iff]
  constructor
  · rintro ⟨before, after, rfl, hb⟩
    have hslice : (before ++ c.text ++ after).slice? c.offset (c.offset + c.text.bytes) =
        some c.text := Text.slice?_eq_some_iff.mpr ⟨before, after, rfl, hb, rfl⟩
    have hle := Text.le_bytes_of_slice? hslice
    exact ⟨_, sum?_eq (Text.lt_wordLimit (by omega)), hslice⟩
  · rintro ⟨stop, -, hslice⟩
    obtain ⟨before, after, hsplit, hb, -⟩ := Text.slice?_eq_some_iff.mp hslice
    exact ⟨before, after, hsplit, hb⟩

theorem findChecked_eq (s : TagSet) (hline : line.bytes ≤ Text.maxBytes) (c : Comment) :
    s.findChecked line c = .ok (s.find? line c) := by
  have hlies := liesOn_iff_slice? (c := c) hline
  rw [findChecked, find?]
  cases hc : c.liesOn line with
  | true =>
    obtain ⟨stop, hsum, hslice⟩ := hlies.mp hc
    rw [hsum]
    simp only [hslice, if_true]
    exact firstChecked_eq fun f _ => Finder.findChecked_eq hc hline
  | false =>
    cases hsum : sum? c.offset c.text.bytes with
    | none => rfl
    | some stop =>
      have hslice : line.slice? c.offset stop ≠ some c.text := by
        intro hslice
        have htrue := hlies.mpr ⟨stop, hsum, hslice⟩
        rw [hc] at htrue
        cases htrue
      simp only [if_neg hslice]
      rfl

/-- No comment makes the search run into a fault, whatever its text and its offset. A comment that
the line does not hold at its offset has no match. The text of a match always stands in the comment,
so a match whose name does not begins with that text, and selects it, be it empty. -/
theorem find?_faultless (s : TagSet) (line : Text) (c : Comment) :
    (line.bytes ≤ Text.maxBytes → s.findChecked line c = .ok (s.find? line c)) ∧
      ((¬∃ before after, line = before ++ c.text ++ after ∧ before.bytes = c.offset) →
        s.find? line c = none) ∧
      ∀ m, s.find? line c = some m → Text.likeIndex? m.tag.name.toList c.text = none →
        ∃ f ∈ s.finders, f.tag = m.tag ∧ f.find? line c = some m ∧
          ∃ matched before after, f.matched? c.text = some matched ∧
            c.text.cut? matched = some (before, after) ∧
            f.startByte c matched = c.offset + before.bytes ∧
            line.between m.startColumn m.stopColumn = matched := by
  refine ⟨fun hline => s.findChecked_eq hline c, ?_, ?_⟩
  · intro hout
    rw [← Comment.liesOn_iff] at hout
    rw [find?, if_neg hout]
  · intro m hm hname
    obtain ⟨hc, f, hf, hfind⟩ := exists_finder_of_find? hm
    obtain ⟨-, -, htag, -⟩ := Finder.exists_of_find? hc hfind
    rw [htag] at hname
    exact ⟨f, hf, htag.symm, hfind, Finder.between_of_unnamed hc hfind hname⟩

/-- The empty text is a run too. -/
def runFinder : Finder :=
  ⟨⟨"RUN", some "x*", none, none, none⟩, .iterate (.one (.like 'x')) none true⟩

/-- A match of nothing but white space selects the empty text where the comment begins. -/
theorem find?_faultless_empty :
    let line := "é //  ".toList
    let c : Comment := ⟨"  ".toList, 5⟩
    let s := (compile [runFinder.tag]).1
    Text.bytes line ≤ Text.maxBytes ∧
      s.findChecked line c = .ok (some ⟨runFinder.tag, [], 4, 4⟩) ∧
      Text.likeIndex? "RUN".toList c.text = none ∧
      ∃ f ∈ s.finders, f.matched? c.text = some [] ∧ f.startByte c [] = 5 := by
  intro line c s
  have hline : Text.bytes line ≤ Text.maxBytes := by decide
  have hname : Text.likeIndex? "RUN".toList c.text = none := by decide
  have hfind : s.find? line c = some ⟨runFinder.tag, [], 4, 4⟩ := by
    rw [find?_compile_singleton (by decide +kernel) (by decide), Finder.find?_line _ (by decide)]
    decide +kernel
  obtain ⟨hchecked, -, hselects⟩ := find?_faultless s line c
  obtain ⟨f, hf, -, -, matched, before, after, hmatched, hcut, hstart, hselected⟩ :=
    hselects _ hfind hname
  obtain rfl : [] = matched := hselected
  obtain rfl : [] = before := congrArg Prod.fst (Option.some.inj hcut)
  exact ⟨hline, hfind ▸ hchecked hline, hname, f, hf, hmatched, hstart⟩

end TagSet

end CommentTags
