import Mathlib.Data.Option.NAry
import CommentTags.Comment.Languages
import CommentTags.Proofs.Except
import CommentTags.Proofs.Text

/-!
Languages none of whose markers is empty: all that are built in and all that are accepted from a
user. On an empty line they neither find a comment nor begin or end one.
-/
namespace CommentTags

namespace Markers

def isProper (m : Markers) : Bool :=
  m.line.all (!·.isEmpty) && m.block.all fun b => !b.opening.isEmpty && !b.closing.isEmpty

theorem nonEmpty_eq_ok_iff {language : String} {marker t : Text} :
    nonEmpty language marker = .ok t ↔ marker ≠ [] ∧ t = marker := by
  cases marker with
  | nil => simp [nonEmpty]
  | cons c rest => simp [nonEmpty, eq_comm]

theorem mapM_nonEmpty_eq_ok_iff {language : String} {line l : Option Text} :
    line.mapM (nonEmpty language) = .ok l ↔ line ≠ some [] ∧ l = line := by
  cases line with
  | none => simp [pure, Except.pure, eq_comm]
  | some marker =>
    have hmap : (some marker).mapM (nonEmpty language) =
        nonEmpty language marker >>= fun t => .ok (some t) := rfl
    rw [hmap, bind_eq_ok_iff]
    simp only [nonEmpty_eq_ok_iff, Except.ok.injEq]
    constructor
    · rintro ⟨t, ⟨hne, rfl⟩, rfl⟩
      exact ⟨fun he => hne (Option.some.inj he), rfl⟩
    · rintro ⟨hne, rfl⟩
      exact ⟨marker, ⟨fun he => hne (congrArg some he), rfl⟩, rfl⟩

/-- Markers are accepted just as they are written: none is empty, and block markers come in
pairs. -/
theorem custom_eq_ok_iff {language : String} {line opening closing : Option Text} {m : Markers} :
    custom language line opening closing = .ok m ↔
      (line ≠ some [] ∧ opening ≠ some [] ∧ closing ≠ some [] ∧
        opening.isSome = closing.isSome) ∧
      m = ⟨line, Option.map₂ BlockMarkers.mk opening closing⟩ := by
  rw [custom, bind_eq_ok_iff]
  simp only [mapM_nonEmpty_eq_ok_iff]
  rcases opening with _ | o <;> rcases closing with _ | c
  case none.none => simp [pure, Except.pure, eq_comm]
  case none.some => simp
  case some.none => simp
  case some.some =>
    simp only [bind_eq_ok_iff, nonEmpty_eq_ok_iff, pure, Except.pure, Except.ok.injEq]
    constructor
    · rintro ⟨_, ⟨hline, rfl⟩, _, ⟨ho, rfl⟩, _, ⟨hc, rfl⟩, rfl⟩
      exact ⟨⟨hline, by simpa using ho, by simpa using hc, rfl⟩, rfl⟩
    · rintro ⟨⟨hline, ho, hc, -⟩, rfl⟩
      exact ⟨line, ⟨hline, rfl⟩, o, ⟨by simpa using ho, rfl⟩, c, ⟨by simpa using hc, rfl⟩, rfl⟩

theorem isProper_custom {language : String} {line opening closing : Option Text} {m : Markers}
    (h : custom language line opening closing = .ok m) : m.isProper = true := by
  obtain ⟨⟨hline, hopening, hclosing, -⟩, rfl⟩ := custom_eq_ok_iff.mp h
  cases line <;> cases opening <;> cases closing <;> simp_all [isProper]

variable {m : Markers}

theorem closing_ne_nil (hm : m.isProper = true) {b : BlockMarkers} (hb : m.block = some b) :
    b.opening ≠ [] ∧ b.closing ≠ [] := by
  simpa [hb] using (Bool.and_eq_true_iff.mp hm).2

end Markers

namespace Languages

theorem mem_of_lookup {name : String} {m : Markers} {es : List (String × Markers)}
    (h : es.lookup name = some m) : (name, m) ∈ es := by
  obtain ⟨before, after, rfl, -⟩ := List.lookup_eq_some_iff.mp h
  exact List.mem_append_right before List.mem_cons_self

theorem isProper_insert {t : Languages} (ht : ∀ e ∈ t.entries, e.2.isProper = true)
    {name : String} {m : Markers} (hm : m.isProper = true) :
    ∀ e ∈ (t.insert name m).entries, e.2.isProper = true := by
  intro e he
  rcases List.mem_append.mp he with he | he
  · exact ht e (List.mem_filter.mp he).1
  · rw [List.mem_singleton.mp he]
    exact hm

theorem isProper_withOverrides {given : List (String × Markers)}
    (h : ∀ e ∈ given, e.2.isProper = true) :
    ∀ e ∈ (withOverrides given).entries, e.2.isProper = true := by
  have hfold : ∀ t : Languages, (∀ e ∈ t.entries, e.2.isProper = true) →
      ∀ e ∈ (given.foldl (fun t e => t.insert e.1 e.2) t).entries, e.2.isProper = true := by
    induction given with
    | nil => exact fun t ht => ht
    | cons e given ih =>
      intro t ht
      exact ih (fun f hf => h f (List.mem_cons_of_mem e hf)) _
        (isProper_insert ht (h e List.mem_cons_self))
  exact hfold standard (by decide)

theorem isProper_get? {t : Languages} (ht : ∀ e ∈ t.entries, e.2.isProper = true)
    {name : String} {m : Markers} (h : t.get? name = some m) : m.isProper = true := by
  rcases Option.or_eq_some_iff.mp h with h | ⟨-, h⟩
  · exact ht _ (mem_of_lookup h)
  · exact ht _ (mem_of_lookup h)

end Languages

namespace Text

theorem cut?_nil {needle : Text} (h : needle ≠ []) : cut? [] needle = none := by
  rw [cut?, if_neg]
  rwa [List.isEmpty_iff]

end Text

namespace Markers

variable {m : Markers}

theorem locate_outside_nil (hm : m.isProper = true) :
    m.locate .outside [] = (Option.none, .outside) := by
  have hline : (m.line.bind fun marker => (Text.cut? [] marker).map fun s => (marker, s)) =
      Option.none := by
    cases hl : m.line with
    | none => rfl
    | some marker =>
      have hne : marker ≠ [] := by
        simpa [hl] using (Bool.and_eq_true_iff.mp hm).1
      rw [Option.bind_some, Text.cut?_nil hne]
      rfl
  have hblock : (m.block.bind fun b => (Text.cut? [] b.opening).map fun s => (b, s)) =
      Option.none := by
    cases hb : m.block with
    | none => rfl
    | some b =>
      rw [Option.bind_some, Text.cut?_nil (m.closing_ne_nil hm hb).1]
      rfl
  rw [locate, BlockState.outside]
  simp only [locateOpening, hline, hblock]
  rfl

end Markers

end CommentTags
