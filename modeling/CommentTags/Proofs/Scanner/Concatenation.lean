import CommentTags.Proofs.Buffer.Lines
import CommentTags.Proofs.Comment.Proper
import CommentTags.Proofs.Comment.Walk
import CommentTags.Proofs.Scanner.Lines

/-!
Scanning two texts as one. Where the first ends with a line feed and outside of block comments,
the tags of both are those of each, the second ones further down.
-/
namespace CommentTags

namespace Markers

variable {m : Markers} {state : BlockState}

/-- Only a block comment of this language can be open. -/
def Leaves (m : Markers) (state : BlockState) : Prop :=
  ∀ closing, state.pending = some closing → ∃ b, m.block = some b ∧ b.closing = closing

theorem leaves_locateBody {b : BlockMarkers} (hb : m.block = some b) (before body : Text) :
    m.Leaves (locateBody before body b.closing).2 := by
  rw [locateBody]
  split
  · rintro closing ⟨⟩
  · rintro closing ⟨⟩
    exact ⟨b, hb, rfl⟩

theorem leaves_locate (h : m.Leaves state) (line : Text) : m.Leaves (m.locate state line).2 := by
  rw [locate]
  split
  case h_1 closing hp =>
    obtain ⟨b, hb, rfl⟩ := h closing hp
    exact leaves_locateBody hb [] line
  case h_2 =>
    rw [locateOpening_eq]
    cases hcut : m.blockCut? line with
    | none => rintro closing ⟨⟩
    | some s =>
      obtain ⟨b, before, after⟩ := s
      obtain ⟨hb, -⟩ := m.eq_append_of_blockCut? hcut
      rw [earlier]
      split
      · rw [← locateBody_eq]
        exact leaves_locateBody hb _ _
      · rintro closing ⟨⟩

theorem leaves_stateAfter (h : m.Leaves state) (lines : List Text) :
    m.Leaves (m.stateAfter state lines) := by
  induction lines generalizing state with
  | nil => exact h
  | cons line rest ih => exact ih (leaves_locate h line)

/-- An empty line leaves the state of block comments as it is. -/
theorem locate_nil_state (hm : m.isProper = true) (h : m.Leaves state) :
    (m.locate state []).2 = state := by
  cases hp : state.pending with
  | none =>
    have hs : state = .outside := by
      cases state
      cases hp
      rfl
    rw [hs, locate_outside_nil hm]
  | some closing =>
    obtain ⟨b, hb, rfl⟩ := h closing hp
    rw [locate, hp]
    simp only [locateBody, Text.cut?_nil (closing_ne_nil hm hb).2]
    cases state
    cases hp
    rfl

end Markers

namespace TagSet

variable {tags : TagSet} {id : DocumentId} {m : Markers} {before : List Text}

/-- Lines that end outside of block comments, an empty last one included, hand nothing on. -/
theorem findAll_append_of_outside (hm : m.isProper = true)
    (hout : (m.stateAfter .outside (before ++ [[]])).isOpen = false) (after : List Text) :
    tags.findAll id m .outside 0 (before ++ after) =
      tags.findAll id m .outside 0 (before ++ [[]]) ++
        (tags.findAll id m .outside 0 after).map (FoundTag.down before.length) := by
  have hleaves : m.Leaves (m.stateAfter .outside before) :=
    Markers.leaves_stateAfter (fun closing hc => by cases hc) before
  have hstate : m.stateAfter .outside before = .outside := by
    rw [Markers.stateAfter, List.foldl_append] at hout
    change (m.locate (m.stateAfter .outside before) []).2.isOpen = false at hout
    rw [Markers.locate_nil_state hm hleaves] at hout
    cases hs : m.stateAfter .outside before with
    | mk pending =>
      rw [hs] at hout
      cases pending with
      | none => rfl
      | some closing => cases hout
  have hlast : tags.findAll id m .outside (0 + before.length) [[]] = [] := by
    rw [findAll, Markers.locate_outside_nil hm]
    rfl
  rw [findAll_append, findAll_append, hstate, hlast, List.append_nil, findAll_down]

end TagSet

namespace Document

variable {language : String} {id : DocumentId}

theorem isScannable_ofText (language : String) {t : Text} (hne : t ≠ []) (hnul : '\x00' ∉ t) :
    (ofText id language t).isScannable = (language != Language.binary) := by
  have hempty : (Buffer.ofText t).isEmpty = false := by
    cases t with
    | nil => exact (hne rfl).elim
    | cons c t => rfl
  have hhas : (Buffer.ofText t).hasNul = false := by
    simpa [Buffer.hasNul, Buffer.ofText] using hnul
  simp [isScannable, ofText, hempty, hhas]

/-- What is found in a text, the empty one included: it is not scanned, but has no tags. -/
theorem found_ofText {languages : Languages} {tags : TagSet}
    (hproper : ∀ e ∈ languages.entries, e.2.isProper = true) {t : Text} (hnul : '\x00' ∉ t) :
    (ofText id language t).source.found languages tags =
      if language != Language.binary then
        ((languages.get? language).map fun m =>
          tags.findAll id m .outside 0 (t.lines.map Line.text)).getD []
      else [] := by
  rw [found_source]
  by_cases hne : t = []
  · subst hne
    have hs : (ofText id language []).isScannable = false := by
      simp [isScannable, ofText, Buffer.ofText, Buffer.isEmpty]
    rw [hs]
    cases hm : languages.get? language with
    | none => simp
    | some m =>
      have hlast : tags.findAll id m .outside 0 [[]] = [] := by
        rw [TagSet.findAll, Markers.locate_outside_nil (Languages.isProper_get? hproper hm)]
        rfl
      have hlines : (Text.lines []).map Line.text = [[]] := rfl
      rw [hlines, Option.map_some, Option.getD_some, hlast]
      simp
  · rw [isScannable_ofText language hne hnul]
    rfl

end Document

namespace Scanner

/-- In every language that is built in or that a user may give, a text that ends with a line feed
and outside of block comments can be put before another: a scan of both finds the tags of the
first, and then those of the second with as many more lines before them. -/
theorem scan_append (s : Scanner) (given : List (String × Markers))
    (hgiven : ∀ e ∈ given, ∃ line opening closing,
      Markers.custom e.1 line opening closing = .ok e.2)
    (hs : s.languages = .withOverrides given) (id : DocumentId) (language : String) {a b : Text}
    (ha : a.getLast? = some '\n') (hnul : '\x00' ∉ a ++ b)
    (hout : ∀ m, s.languages.get? language = some m →
      (m.stateAfter .outside (Document.ofText id language a).lineTexts).isOpen = false) :
    (s.scan (Document.ofText id language (a ++ b)).source).answer =
      (s.scan (Document.ofText id language a).source).answer ++
        (s.scan (Document.ofText id language b).source).answer.map
          (FoundTag.down ((Document.ofText id language a).source.lineCount - 1)) := by
  have hproper : ∀ e ∈ s.languages.entries, e.2.isProper = true := by
    rw [hs]
    apply Languages.isProper_withOverrides
    intro e he
    obtain ⟨line, opening, closing, hcustom⟩ := hgiven e he
    exact Markers.isProper_custom hcustom
  obtain ⟨a, rfl⟩ := List.getLast?_eq_some_iff.mp ha
  obtain ⟨before, -, hlines⟩ := Text.lines_append_lineFeed a
  have hfirst : Text.lines (a ++ ['\n']) = before ++ [⟨[], .unterminated⟩] := hlines []
  have hboth : Text.lines (a ++ ['\n'] ++ b) = before ++ b.lines := by
    rw [List.append_assoc]
    exact hlines b
  have hcount : (Document.ofText id language (a ++ ['\n'])).source.lineCount - 1 =
      (before.map Line.text).length := by
    change (Text.lines (a ++ ['\n'])).toArray.size - 1 = _
    rw [hfirst]
    simp
  have hnulA : '\x00' ∉ a ++ ['\n'] := fun h => hnul (List.mem_append_left b h)
  have hnulB : '\x00' ∉ b := fun h => hnul (List.mem_append_right _ h)
  rw [scan_answer, scan_answer, scan_answer, Document.found_ofText hproper hnul,
    Document.found_ofText hproper hnulA, Document.found_ofText hproper hnulB, hcount, hboth,
    hfirst]
  split
  case isFalse => rfl
  case isTrue =>
    cases hm : s.languages.get? language with
    | none => rfl
    | some m =>
      have hstate := hout m hm
      rw [Document.lineTexts] at hstate
      change (m.stateAfter .outside ((Text.lines (a ++ ['\n'])).map Line.text)).isOpen = false
        at hstate
      rw [hfirst, List.map_append] at hstate
      simp only [Option.map_some, Option.getD_some, List.map_append]
      exact TagSet.findAll_append_of_outside (Languages.isProper_get? hproper hm) hstate _

/-- A block comment may cross lines of the first text, as long as it ends there. -/
theorem scan_append_closed_block :
    let scanned (t : Text) := (standard.scan (Document.ofText "a.js" "javascript" t).source).answer
    let a := "let x; /* TODO: y\r\n NOTE z */ // w\n".toList
    let b := "\r// FIXME: v".toList
    scanned (a ++ b) = scanned a ++ (scanned b).map (FoundTag.down 2) := by
  intro scanned a b
  have hout : ∀ m, standard.languages.get? "javascript" = some m →
      (m.stateAfter .outside (Document.ofText "a.js" "javascript" a).lineTexts).isOpen = false := by
    intro m hm
    have hjavascript : standard.languages.get? "javascript" =
        some (.lineAndBlock "//" "/*" "*/") := by decide
    rw [hjavascript] at hm
    cases hm
    decide
  exact scan_append standard [] (by simp) rfl "a.js" "javascript" (by decide) (by decide) hout

end Scanner

end CommentTags
