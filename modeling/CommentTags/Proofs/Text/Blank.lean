import Mathlib.Data.List.TakeWhile
import CommentTags.Proofs.Text.LowerCase
import CommentTags.Text

/-!
White space at the ends of a text, and the case of letters. What trimming leaves is a stretch of the
text that begins, if it is not empty, with no white space; and no letter differs only in case from a
white space character.
-/
namespace CommentTags

namespace Text

variable {t u : Text}

def beginsBlank (t : Text) : Bool := t.head?.any isBlank

theorem beginsBlank_of_prefix (h : u <+: t) (hne : u ≠ []) : u.beginsBlank = t.beginsBlank := by
  obtain ⟨rest, rfl⟩ := h
  obtain ⟨c, u, rfl⟩ := List.exists_cons_of_ne_nil hne
  rfl

theorem trimLeft_isSuffix (t : Text) : trimLeft t <:+ t := List.dropWhile_suffix _

theorem trimRight_isPrefix (t : Text) : trimRight t <+: t := by
  have hsuffix : (trimRight t).reverse <:+ t.reverse := by
    rw [trimRight, List.reverse_reverse]
    exact List.dropWhile_suffix _
  exact List.reverse_suffix.mp hsuffix

theorem trim_isInfix (t : Text) : trim t <:+: t :=
  (trimRight_isPrefix (trimLeft t)).isInfix.trans (trimLeft_isSuffix t).isInfix

theorem length_trim_le (t : Text) : (trim t).length ≤ t.length := (trim_isInfix t).length_le

/-- Trimming what follows a place of a text leaves no more than fits in there. -/
theorem add_length_trim_drop_le {n : Nat} (h : n ≤ t.length) :
    n + (trim (t.drop n)).length ≤ t.length := by
  have hle := length_trim_le (t.drop n)
  rw [List.length_drop] at hle
  omega

theorem beginsBlank_trimLeft (t : Text) : (trimLeft t).beginsBlank = false := by
  have hfirst := List.head?_dropWhile_not isBlank t
  rw [beginsBlank, trimLeft]
  cases h : (t.dropWhile isBlank).head? with
  | none => rfl
  | some c =>
    rw [h] at hfirst
    exact hfirst

theorem trimLeft_eq_self (h : t.beginsBlank = false) : trimLeft t = t := by
  cases t with
  | nil => rfl
  | cons c t =>
    have hc : isBlank c = false := h
    rw [trimLeft, List.dropWhile_cons, hc]
    rfl

/-- A text that begins with no white space begins with what trimming leaves of it. -/
theorem trim_isPrefix (h : t.beginsBlank = false) : trim t <+: t := by
  rw [trim, trimLeft_eq_self h]
  exact trimRight_isPrefix t

theorem trim_eq_nil_iff : trim t = [] ↔ ∀ c ∈ t, isBlank c = true := by
  have hright : trim t = [] ↔ ∀ c ∈ trimLeft t, isBlank c = true := by
    rw [trim, trimRight, List.reverse_eq_nil_iff, List.dropWhile_eq_nil_iff]
    simp only [List.mem_reverse]
  rw [hright]
  constructor
  · intro h
    cases hleft : trimLeft t with
    | nil => exact List.dropWhile_eq_nil_iff.mp hleft
    | cons c rest =>
      have hblank : isBlank c = true := h c (hleft ▸ List.mem_cons_self)
      have hbegins := beginsBlank_trimLeft t
      rw [hleft] at hbegins
      exact absurd hblank (Bool.eq_false_iff.mp hbegins)
  · exact fun h c hc => h c ((trimLeft_isSuffix t).subset hc)

/-- The characters that a text begins with are those that trimming leaves of it, unless white space
was taken off in front. -/
theorem take_trim_eq_iff (h : trim t ≠ []) :
    t.take (trim t).length = trim t ↔ t.beginsBlank = false := by
  constructor
  · intro htake
    have hprefix : trim t <+: t := htake ▸ List.take_prefix _ t
    have hleft : (trim t).beginsBlank = (trimLeft t).beginsBlank :=
      beginsBlank_of_prefix (trimRight_isPrefix (trimLeft t)) h
    rw [← beginsBlank_of_prefix hprefix h, hleft]
    exact beginsBlank_trimLeft t
  · intro hbegins
    exact (List.prefix_iff_eq_take.mp (trim_isPrefix hbegins)).symm

end Text

/-- The code points of white space. -/
def blankCodes : List Nat :=
  List.range' 0x9 5 ++ List.range' 0x2000 11 ++
    [0x20, 0x85, 0xA0, 0x1680, 0x2028, 0x2029, 0x202F, 0x205F, 0x3000]

theorem isBlank_iff {c : Char} : isBlank c = true ↔ c.toNat ∈ blankCodes := by
  simp only [isBlank, blankCodes, Bool.or_eq_true, Bool.and_eq_true, decide_eq_true_eq,
    beq_iff_eq, List.mem_append, List.mem_range'_1, List.mem_cons, List.not_mem_nil,
    or_false]
  omega

/-- Folding leaves white space alone and makes none. -/
theorem isBlank_fold (c : Char) : isBlank (fold c) = isBlank c := by
  have hkept : blankCodes.all fun n => Unicode.CaseRun.map Unicode.foldRuns n == n := by
    decide +kernel
  have hmade : Unicode.foldRuns.all fun r =>
      blankCodes.all fun n => Nat.blt n r.image || Nat.blt r.lastImage n := by decide +kernel
  rcases Unicode.CaseRun.map_eq_self_or_mem_images Unicode.foldRuns c.toNat with
    hself | ⟨r, hr, hmoved⟩
  · rw [fold, hself, Char.ofNat_toNat]
  · have hbounds := Unicode.CaseRun.bounds_of_mem_images hmoved
    have hout : ∀ n ∈ blankCodes, Unicode.CaseRun.map Unicode.foldRuns c.toNat ≠ n := by
      intro n hn heq
      have hn := List.all_eq_true.mp (List.all_eq_true.mp hmade r hr) n hn
      rw [Bool.or_eq_true, Nat.blt_eq, Nat.blt_eq] at hn
      omega
    have hc : isBlank c ≠ true := by
      intro hc
      have hcode := isBlank_iff.mp hc
      exact hout _ hcode (beq_iff_eq.mp (List.all_eq_true.mp hkept _ hcode))
    have hfold : isBlank (fold c) ≠ true := by
      intro hfold
      by_cases hv : (Unicode.CaseRun.map Unicode.foldRuns c.toNat).isValidChar
      · have hcode : (fold c).toNat = Unicode.CaseRun.map Unicode.foldRuns c.toNat := by
          rw [fold, Char.ofNat, dif_pos hv]
          rfl
        exact hout _ (isBlank_iff.mp hfold) hcode.symm
      · rw [fold, Char.ofNat, dif_neg hv] at hfold
        cases hfold
    rw [Bool.eq_false_iff.mpr hc, Bool.eq_false_iff.mpr hfold]

end CommentTags
