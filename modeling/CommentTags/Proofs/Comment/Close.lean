import CommentTags.Proofs.Comment.Proper
import CommentTags.Proofs.Comment.Walk

/-!
The end of a block comment. What follows its closing marker on the line has no part in where the
comment is and in how the line leaves the next, unless a line marker is so long that it can begin
before the block comment and end after it.
-/
namespace CommentTags

namespace Text

variable {t needle before after : Text}

/-- The first occurrence of a needle does not depend on what follows it. -/
theorem cut?_append (h : t.cut? needle = some (before, after)) (rest : Text) :
    cut? (before ++ (needle ++ rest)) needle = some (before, rest) := by
  induction t generalizing before with
  | nil =>
    have hnil := eq_append_of_cut? h
    simp only [List.append_assoc, List.nil_eq, List.append_eq_nil_iff] at hnil
    obtain ⟨rfl, rfl, -⟩ := hnil
    exact cut?_of_prefix List.nil_prefix
  | cons c t ih =>
    by_cases hp : needle <+: c :: t
    · rw [Text.cut?_of_prefix hp] at h
      cases h
      rw [List.nil_append, cut?_of_prefix (List.prefix_append needle rest), List.drop_left]
    · rw [Text.cut?_cons_of_not_prefix hp] at h
      obtain ⟨⟨before, after⟩, hcut, hs⟩ := Option.map_eq_some_iff.mp h
      cases hs
      have hfront : c :: (before ++ needle) <+: c :: t := by
        rw [eq_append_of_cut? hcut]
        exact List.cons_prefix_cons.mpr ⟨rfl, List.prefix_append _ _⟩
      have hlater : ¬needle <+: c :: (before ++ (needle ++ rest)) := by
        intro hn
        have hother : c :: (before ++ needle) <+: c :: (before ++ (needle ++ rest)) :=
          List.cons_prefix_cons.mpr ⟨rfl, by rw [← List.append_assoc]; exact List.prefix_append _ _⟩
        have hlength : needle.length ≤ (c :: (before ++ needle)).length := by
          simp only [List.length_cons, List.length_append]
          omega
        exact hp ((List.prefix_of_prefix_length_le hn hother hlength).trans hfront)
      rw [List.cons_append, cut?_cons_of_not_prefix hlater, ih hcut]
      rfl

theorem bytes_eq_zero_iff : bytes t = 0 ↔ t = [] := by
  cases t with
  | nil => simp [bytes]
  | cons c t =>
    have hc : 0 < c.utf8Size := c.utf8Size_pos
    refine ⟨fun h => ?_, fun h => (List.cons_ne_nil c t h).elim⟩
    rw [bytes] at h
    omega

/-- A prefix that is not longer than the first part lies in it. -/
theorem prefix_of_prefix_append (h : needle <+: before ++ after)
    (hle : needle.length ≤ before.length ∨ needle.bytes ≤ before.bytes) : needle <+: before := by
  rcases List.prefix_or_prefix_of_prefix h (List.prefix_append before after) with hn | hb
  · exact hn
  · obtain ⟨more, rfl⟩ := hb
    have hmore : more = [] := by
      rw [List.length_append, bytes_append] at hle
      rcases hle with hle | hle
      · exact List.length_eq_zero_iff.mp (by omega)
      · exact bytes_eq_zero_iff.mp (by omega)
    simp only [hmore, List.append_nil, List.prefix_rfl]

end Text

namespace Markers

/-- The line marker is not longer than the two block markers together, in characters or in
bytes. -/
def lineFits (m : Markers) : Bool :=
  m.line.all fun marker => m.block.all fun b =>
    marker.length ≤ b.opening.length + b.closing.length ||
      marker.bytes ≤ b.opening.bytes + b.closing.bytes

/-- A block comment ends on the line. What is kept is the line up to the end of its closing
marker. -/
inductive Closes (m : Markers) : (state : BlockState) → (line kept : Text) → Prop
  | openedBefore {state : BlockState} {closing line inside rest : Text} :
    state.pending = some closing → line.cut? closing = some (inside, rest) →
    Closes m state line (inside ++ closing)
  | openedHere {b : BlockMarkers} {line before body inside rest : Text} :
    m.block = some b → line.cut? b.opening = some (before, body) →
    (∀ marker s, m.line = some marker → line.cut? marker = some s → before.length < s.1.length) →
    body.cut? b.closing = some (inside, rest) →
    Closes m .outside line (before ++ (b.opening ++ (inside ++ b.closing)))

variable {m : Markers} {state : BlockState} {line kept : Text}

theorem lineFits_of_mem_builtin {e : String × Markers} (h : e ∈ Languages.builtin) :
    e.2.lineFits = true := by
  have hall : ∀ e ∈ Languages.builtin, e.2.lineFits = true := by decide
  exact hall e h

theorem isProper_of_mem_builtin {e : String × Markers} (h : e ∈ Languages.builtin) :
    e.2.isProper = true := by
  have hall : ∀ e ∈ Languages.builtin, e.2.isProper = true := by decide
  exact hall e h

theorem Closes.prefix_line (h : m.Closes state line kept) : kept <+: line := by
  cases h with
  | openedBefore hp hcut =>
    rw [Text.eq_append_of_cut? hcut]
    exact List.prefix_append _ _
  | @openedHere b line before body inside rest hb hopen _ hclose =>
    refine ⟨rest, ?_⟩
    rw [Text.eq_append_of_cut? hopen, Text.eq_append_of_cut? hclose]
    simp only [List.append_assoc]

/-- Whatever follows the block comment, no line marker comes before its opening. -/
theorem lt_of_cut?_line {b : BlockMarkers} {before inside rest fresh marker : Text}
    {s : Text × Text} (hfits : m.lineFits = true) (hb : m.block = some b)
    (hmarker : m.line = some marker)
    (hlater : ∀ s, Text.cut? (before ++ (b.opening ++ (inside ++ (b.closing ++ rest)))) marker =
      some s → before.length < s.1.length)
    (hcut : Text.cut? (before ++ (b.opening ++ (inside ++ (b.closing ++ fresh)))) marker =
      some s) : before.length < s.1.length := by
  by_contra hle
  have hline := Text.eq_append_of_cut? hcut
  rw [List.append_assoc] at hline
  have hprefix : s.1 <+: before :=
    List.prefix_of_prefix_length_le ⟨_, hline.symm⟩ (List.prefix_append before _) (by omega)
  obtain ⟨code, rfl⟩ := hprefix
  rw [List.append_assoc] at hline
  have hmarked : marker <+: code ++ (b.opening ++ (inside ++ b.closing)) ++ fresh := by
    refine ⟨s.2, ?_⟩
    rw [← List.append_cancel_left hline]
    simp only [List.append_assoc]
  -- The marker ends no later than the block comment, so it stood on the line before.
  have hinside : marker <+: code ++ (b.opening ++ (inside ++ b.closing)) := by
    apply Text.prefix_of_prefix_append hmarked
    have hle : marker.length ≤ b.opening.length + b.closing.length ∨
        Text.bytes marker ≤ Text.bytes b.opening + Text.bytes b.closing := by
      simpa [lineFits, hmarker, hb] using hfits
    simp only [List.length_append, Text.bytes_append]
    omega
  obtain ⟨after, hafter⟩ := hinside
  obtain ⟨s', hcut', hlength⟩ := Text.exists_cut?_append s.1 marker (after ++ rest)
  have hold : s.1 ++ (marker ++ (after ++ rest)) =
      s.1 ++ code ++ (b.opening ++ (inside ++ (b.closing ++ rest))) := by
    rw [← List.append_assoc marker, hafter]
    simp only [List.append_assoc]
  have hlt := hlater s' (by rw [← hold]; exact hcut')
  simp only [List.length_append] at hlt
  omega

/-- What follows the end of a block comment decides neither where the comment is nor what it
leaves to the next line. -/
theorem Closes.exists_locate (hfits : m.lineFits = true) (h : m.Closes state line kept) :
    ∃ c : Comment, c.liesOn kept = true ∧
      ∀ fresh, m.locate state (kept ++ fresh) = (some c, .outside) := by
  cases h with
  | @openedBefore state closing line inside rest hp hcut =>
    refine ⟨⟨inside, 0⟩, Comment.liesOn_iff.mpr ⟨[], closing, rfl, rfl⟩, fun fresh => ?_⟩
    rw [locate, hp, List.append_assoc]
    simp only [locateBody, Text.cut?_append hcut fresh]
    rfl
  | @openedHere b line before body inside rest hb hopen hlater hclose =>
    refine ⟨⟨inside, (before ++ b.opening).bytes⟩, ?_, fun fresh => ?_⟩
    · rw [Comment.liesOn_iff]
      exact ⟨before ++ b.opening, b.closing, by simp only [List.append_assoc], rfl⟩
    · have hline := Text.eq_append_of_cut? hopen
      have hbody := Text.eq_append_of_cut? hclose
      simp only [List.append_assoc] at hline hbody
      rw [hbody] at hline
      rw [hline] at hlater
      simp only [List.append_assoc]
      have hblock : m.blockCut? (before ++ (b.opening ++ (inside ++ (b.closing ++ fresh)))) =
          some (b, before, inside ++ (b.closing ++ fresh)) := by
        rw [blockCut?, hb, Option.bind_some, Text.cut?_append hopen]
        rfl
      have hfirst : ((m.lineCut? (before ++ (b.opening ++ (inside ++ (b.closing ++ fresh))))).all
          fun s => before.length < s.2.1.length) = true := by
        rw [Option.all_eq_true]
        intro s hs
        obtain ⟨marker, hmarker, hs⟩ := Option.bind_eq_some_iff.mp hs
        obtain ⟨s, hcut, rfl⟩ := Option.map_eq_some_iff.mp hs
        exact decide_eq_true (lt_of_cut?_line hfits hb hmarker (hlater marker · hmarker) hcut)
      rw [BlockState.outside, locate, locateOpening_eq, hblock, earlier, if_pos hfirst,
        ← locateBody_eq, locateBody, Text.cut?_append hclose]
      rfl

/-- A line marker that begins with a whole block comment can be completed by what follows it. -/
example :
    let m : Markers := ⟨some "<>#".toList, some ⟨"<".toList, ">".toList⟩⟩
    m.locate .outside "<> y".toList = (some ⟨[], 1⟩, .outside) ∧
      m.locate .outside "<># y".toList = (some ⟨" y".toList, 3⟩, .outside) := by
  decide

end Markers

end CommentTags
