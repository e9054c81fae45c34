import Mathlib.Data.List.TakeWhile
import CommentTags.Proofs.Files.Names

/-!
Paths below a folder. One that is written as the folder, a slash and a plain path after it is this
plain path when seen from the folder, and such paths are in the order of their plain parts.
-/
namespace CommentTags

namespace Text

variable {separator : Char}

theorem fields_ne_nil (separator : Char) (t : Text) : fields separator t ≠ [] := by
  induction t with
  | nil => exact List.cons_ne_nil _ _
  | cons c t ih =>
    rw [fields]
    split
    · exact List.cons_ne_nil _ _
    · split <;> exact List.cons_ne_nil _ _

theorem fields_append_cons (s t : Text) :
    fields separator (s ++ separator :: t) = fields separator s ++ fields separator t := by
  induction s with
  | nil => exact fields_append List.not_mem_nil t
  | cons c s ih =>
    rw [List.cons_append, fields, fields, ih]
    split
    · rfl
    · obtain ⟨f, fs, hf⟩ := List.exists_cons_of_ne_nil (fields_ne_nil separator s)
      rw [hf]
      rfl

/-- The pieces of a text with the separators between them are the text. -/
theorem intercalate_fields (t : Text) : [separator].intercalate (fields separator t) = t := by
  induction t with
  | nil => rfl
  | cons c t ih =>
    obtain ⟨f, fs, hf⟩ := List.exists_cons_of_ne_nil (fields_ne_nil separator t)
    rw [fields]
    rw [hf] at ih ⊢
    split
    case isTrue hc =>
      rw [List.intercalate_cons_cons, ih, hc]
      rfl
    case isFalse hc =>
      dsimp only
      cases fs with
      | nil =>
        rw [List.intercalate_singleton] at ih ⊢
        rw [ih]
      | cons g gs =>
        rw [List.intercalate_cons_cons] at ih ⊢
        rw [← ih]
        rfl

end Text

namespace Path

variable {piece : Text} {ps : List Text} {root rel : Path}

/-- A path all of whose pieces mean something. -/
def IsPlain (p : Path) : Prop := ∀ piece ∈ p.pieces, isSilent piece = false

instance (p : Path) : Decidable p.IsPlain :=
  inferInstanceAs (Decidable (∀ piece ∈ p.pieces, isSilent piece = false))

/-- The path is written as the root, a slash and a plain path. -/
def IsBelow (root p : Path) : Prop := ∃ rel : Path, p = root ++ "/" ++ rel ∧ rel.IsPlain

theorem pieces_append (root rel : Path) : pieces (root ++ "/" ++ rel) = root.pieces ++ rel.pieces := by
  rw [pieces, String.toList_append, String.toList_append, List.append_assoc]
  exact Text.fields_append_cons root.toList rel.toList

theorem ofPieces_pieces (p : Path) : ofPieces p.pieces = p := by
  rw [ofPieces, pieces, Text.intercalate_fields, String.ofList_toList]

theorem pieces_eq_singleton_nil_iff {p : Path} : p.pieces = [[]] ↔ p = "" := by
  constructor
  · intro h
    rw [← ofPieces_pieces p, h]
    rfl
  · rintro rfl
    rfl

theorem ofPiece?_eq_none_iff {piece : Text} :
    Component.ofPiece? piece = none ↔ isSilent piece = true := by
  rw [Component.ofPiece?, isSilent, Bool.or_eq_true, decide_eq_true_eq, decide_eq_true_eq]
  split
  case isTrue h => exact ⟨fun _ => h, fun _ => rfl⟩
  case isFalse h =>
    refine ⟨fun hn => ?_, fun hs => (h hs).elim⟩
    split at hn <;> cases hn

theorem steps_false_eq_nil_iff : steps false ps = [] ↔ ∀ piece ∈ ps, isSilent piece = true := by
  rw [← List.map_eq_nil_iff (f := Prod.fst), map_fst_steps, List.filterMap_eq_nil_iff]
  exact forall₂_congr fun _ _ => ofPiece?_eq_none_iff

/-- Nothing that means something comes after the last step. -/
theorem isSilent_of_mem_last {isFirst : Bool} {step : Component × List Text}
    (h : (steps isFirst ps).getLast? = some step) : ∀ piece ∈ step.2, isSilent piece = true := by
  induction ps generalizing isFirst with
  | nil => cases h
  | cons piece ps ih =>
    rw [steps, List.getLast?_append] at h
    cases hlast : (steps false ps).getLast? with
    | some last =>
      rw [hlast, Option.some_or] at h
      exact ih (hlast.trans h)
    | none =>
      rw [hlast, Option.none_or] at h
      have hmem := Option.mem_toList.mp (List.mem_of_getLast? h)
      obtain ⟨here, -, rfl⟩ := Option.map_eq_some_iff.mp hmem
      exact steps_false_eq_nil_iff.mp (List.getLast?_eq_none_iff.mp hlast)

/-- The step with more pieces after it. -/
def followedBy (qs : List Text) (step : Component × List Text) : Component × List Text :=
  (step.1, step.2 ++ qs)

theorem steps_append (ps qs : List Text) :
    steps false (ps ++ qs) = (steps false ps).map (followedBy qs) ++ steps false qs := by
  induction ps with
  | nil => rfl
  | cons piece ps ih =>
    rw [List.cons_append, steps, steps, ih, List.map_append, ← List.append_assoc]
    cases Component.ofPiece? piece <;> rfl

/-- What a path that is not empty begins with does not depend on what is written after it. -/
theorem exists_steps_true (hempty : piece ≠ [] ∨ ps ≠ []) : ∃ first, ∀ qs,
    steps true (piece :: (ps ++ qs)) = (first, ps ++ qs) :: steps false (ps ++ qs) := by
  by_cases hpiece : piece = []
  · have hmore : ps ≠ [] := hempty.resolve_left (not_not_intro hpiece)
    refine ⟨.root, fun qs => ?_⟩
    have hqs : (ps ++ qs).isEmpty = false :=
      List.isEmpty_eq_false_iff.mpr (List.append_ne_nil_of_left_ne_nil hmore qs)
    simp [steps, hpiece, hqs]
  · by_cases hdot : piece = ['.']
    · exact ⟨.current, fun qs => by simp [steps, hdot]⟩
    · have hloud : ¬isSilent piece = true := by simp [isSilent, hpiece, hdot]
      obtain ⟨first, hfirst⟩ := Option.ne_none_iff_exists'.mp (mt ofPiece?_eq_none_iff.mp hloud)
      exact ⟨first, fun qs => by simp [steps, hpiece, hdot, hfirst]⟩

theorem exists_first_step (hroot : root ≠ "") : ∃ first ps,
    steps true root.pieces = (first, ps) :: steps false ps ∧
      ∀ qs, steps true (root.pieces ++ qs) = (first, ps ++ qs) :: steps false (ps ++ qs) := by
  obtain ⟨piece, ps, hps⟩ : ∃ piece ps, root.pieces = piece :: ps :=
    List.exists_cons_of_ne_nil (Text.fields_ne_nil '/' root.toList)
  have hempty : piece ≠ [] ∨ ps ≠ [] := by
    by_contra! hempty
    exact hroot (pieces_eq_singleton_nil_iff.mp (by rw [hps, hempty.1, hempty.2]))
  obtain ⟨first, hfirst⟩ := exists_steps_true hempty
  have halone := hfirst []
  rw [List.append_nil] at halone
  rw [hps]
  exact ⟨first, ps, halone, hfirst⟩

theorem steps_pieces_ne_nil (hroot : root ≠ "") : steps true root.pieces ≠ [] := by
  obtain ⟨first, ps, halone, -⟩ := exists_first_step hroot
  rw [halone]
  exact List.cons_ne_nil _ _

theorem steps_pieces_append (hroot : root ≠ "") (rel : Path) :
    steps true (pieces (root ++ "/" ++ rel)) =
      (steps true root.pieces).map (followedBy rel.pieces) ++ steps false rel.pieces := by
  obtain ⟨first, ps, halone, hfirst⟩ := exists_first_step hroot
  rw [pieces_append, hfirst, halone, steps_append]
  rfl

theorem dropWhile_isSilent_of_loud (h : ∀ piece ∈ ps, isSilent piece = false) :
    ps.dropWhile isSilent = ps := by
  rw [List.dropWhile_eq_self_iff]
  intro hl
  rw [h _ (List.getElem_mem hl)]
  exact Bool.false_ne_true

theorem IsPlain.trimEnd_pieces (h : rel.IsPlain) : trimEnd rel.pieces = rel.pieces := by
  have hreverse : ∀ piece ∈ rel.pieces.reverse, isSilent piece = false :=
    fun piece hp => h piece (List.mem_reverse.mp hp)
  rw [trimEnd, dropWhile_isSilent_of_loud hreverse, List.reverse_reverse]

/-- A plain path is found again below any root that is not empty. -/
theorem relativeTo?_append (hroot : root ≠ "") (h : rel.IsPlain) :
    relativeTo? (root ++ "/" ++ rel) root = some rel := by
  obtain ⟨before, last, hlast⟩ : ∃ before last, steps true root.pieces = before ++ [last] :=
    (List.eq_nil_or_concat' _).resolve_left (steps_pieces_ne_nil hroot)
  have hsilent : ∀ piece ∈ last.2, isSilent piece = true :=
    isSilent_of_mem_last (by rw [hlast, List.getLast?_concat])
  -- Between the last step of the root and the plain path there are silent pieces only.
  have hrest : (last.2 ++ rel.pieces).dropWhile isSilent = rel.pieces := by
    rw [List.dropWhile_append_of_pos hsilent, dropWhile_isSilent_of_loud h]
  have hlength : root.components.length = before.length + 1 := by
    rw [components, hlast, List.length_map, List.length_append, List.length_singleton]
  have hown := steps_pieces_append hroot rel
  have hbegins : ((steps true (pieces (root ++ "/" ++ rel))).map Prod.fst).take
      (before.length + 1) = root.components := by
    have hsame : Prod.fst ∘ followedBy rel.pieces = Prod.fst := rfl
    rw [← hlength, hown, List.map_append, List.map_map, hsame, components, List.take_left]
  have hstep : (steps true (pieces (root ++ "/" ++ rel)))[before.length]? =
      some (followedBy rel.pieces last) := by
    rw [hown, hlast, List.map_append, List.append_assoc, List.getElem?_append_right (by simp)]
    simp
  simp only [relativeTo?, hlength, hbegins, hstep, if_true]
  rw [Option.map_some, followedBy, hrest, h.trimEnd_pieces, ofPieces_pieces]

theorem relativeTo?_append_empty (h : rel.IsPlain) :
    relativeTo? ("" ++ "/" ++ rel) "" = some ("" ++ "/" ++ rel) := by
  have hpieces : pieces ("" ++ "/" ++ rel) = [] :: rel.pieces := pieces_append "" rel
  have hwhole : ofFirst (pieces ("" ++ "/" ++ rel)) = "" ++ "/" ++ rel := by
    have hsome : rel.pieces.isEmpty = false :=
      List.isEmpty_eq_false_iff.mpr (Text.fields_ne_nil '/' rel.toList)
    conv_rhs => rw [← ofPieces_pieces ("" ++ "/" ++ rel)]
    rw [hpieces, ofFirst, h.trimEnd_pieces, hsome]
    rfl
  have hroot : components "" = [] := rfl
  simp only [relativeTo?, hroot, hwhole]
  simp

/-- All that is below one root has one beginning cut off. -/
theorem exists_relativeTo?_of_isBelow (root : Path) : ∃ start : String, ∀ p, IsBelow root p →
    ∃ rel, relativeTo? p root = some rel ∧ p = start ++ rel := by
  by_cases hroot : root = ""
  · subst hroot
    refine ⟨"", ?_⟩
    rintro p ⟨rel, rfl, hrel⟩
    exact ⟨_, relativeTo?_append_empty hrel, String.empty_append.symm⟩
  · refine ⟨root ++ "/", ?_⟩
    rintro p ⟨rel, rfl, hrel⟩
    exact ⟨rel, relativeTo?_append hroot hrel, rfl⟩

theorem le_of_append_le_append {s t u : String} (h : s ++ t ≤ s ++ u) : t ≤ u := by
  apply String.not_lt.mp
  intro hlt
  have hlist : s.toList ++ u.toList < s.toList ++ t.toList :=
    List.append_left_lt (String.lt_iff.mp hlt)
  rw [← String.toList_append, ← String.toList_append] at hlist
  exact String.not_lt.mpr h (String.lt_iff.mpr hlist)

end Path

end CommentTags
