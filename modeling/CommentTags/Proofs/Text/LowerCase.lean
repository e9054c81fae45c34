import Mathlib.Data.List.Basic
import CommentTags.Text.Letters

/-!
Lower case. What was put into lower case stays as it is when it is put into lower case again, be it
by the table of single characters or by the rules for the dotted capital and the final sigma.
-/
namespace CommentTags

namespace Unicode.CaseRun

/-- The code points that a run sends the code points it covers to. -/
def images (r : CaseRun) : List Nat :=
  ((List.range (r.last - r.first + 1)).filter fun k => k % r.step == 0).map (r.image + ·)

def lastImage (r : CaseRun) : Nat := r.image + (r.last - r.first)

/-- No image of the run `s` is moved by the runs. Only runs that overlap with the images are looked
at one code point after the other. -/
def settles (s : CaseRun) : List CaseRun → Bool
  | [] => true
  | r :: rs =>
    Nat.blt s.lastImage r.first ||
      (Nat.blt r.last s.image || s.images.all fun n => !r.covers n) && settles s rs

variable {r s : CaseRun} {runs : List CaseRun} {n : Nat}

theorem bounds_of_mem_images (h : n ∈ s.images) : s.image ≤ n ∧ n ≤ s.lastImage := by
  obtain ⟨k, hk, rfl⟩ := List.mem_map.mp h
  have hlt := List.mem_range.mp (List.mem_filter.mp hk).1
  rw [lastImage]
  omega

theorem mem_images_of_covers (h : r.covers n = true) : r.image + (n - r.first) ∈ r.images := by
  obtain ⟨⟨hfirst, hlast⟩, hstep⟩ : (r.first ≤ n ∧ n ≤ r.last) ∧ (n - r.first) % r.step = 0 := by
    simpa [covers] using h
  refine List.mem_map_of_mem (List.mem_filter.mpr ⟨?_, ?_⟩)
  · rw [List.mem_range]
    omega
  · simpa using hstep

theorem map_eq_self_or_mem_images (runs : List CaseRun) (n : Nat) :
    map runs n = n ∨ ∃ r ∈ runs, map runs n ∈ r.images := by
  induction runs with
  | nil => exact .inl rfl
  | cons r runs ih =>
    rw [map]
    split
    · exact .inl rfl
    · split
      case isTrue hc => exact .inr ⟨r, List.mem_cons_self, mem_images_of_covers hc⟩
      case isFalse =>
        rcases ih with h | ⟨r', hr', h⟩
        · exact .inl h
        · exact .inr ⟨r', List.mem_cons_of_mem r hr', h⟩

theorem map_eq_self_of_settles (h : s.settles runs = true) (hn : n ∈ s.images) :
    map runs n = n := by
  have hbounds := bounds_of_mem_images hn
  induction runs with
  | nil => rfl
  | cons r runs ih =>
    rw [settles, Bool.or_eq_true, Bool.and_eq_true, Bool.or_eq_true, Nat.blt_eq, Nat.blt_eq] at h
    rw [map]
    split
    case isTrue => rfl
    case isFalse hfirst =>
      rcases h with h | ⟨hcovers, h⟩
      · omega
      · have hnot : r.covers n = false := by
          rcases hcovers with hlast | hall
          · have hbeyond : ¬n ≤ r.last := by omega
            simp [covers, hbeyond]
          · simpa using List.all_eq_true.mp hall n hn
        rw [hnot, if_neg Bool.false_ne_true]
        exact ih h

end Unicode.CaseRun

namespace Text

/-- The character is its own lower case, wherever it stands. -/
def isLowered (c : Char) : Bool := c != 'Σ' && lowerChar c == [c]

theorem lowerChar_eq_self {c : Char} (hc : c ≠ 'İ')
    (h : Unicode.CaseRun.map Unicode.lowerRuns c.toNat = c.toNat) : lowerChar c = [c] := by
  rw [lowerChar, if_neg hc, h, Char.ofNat_toNat]

theorem isLowered_of_map_eq_self {c : Char} (hc : c ≠ 'İ')
    (h : Unicode.CaseRun.map Unicode.lowerRuns c.toNat = c.toNat) : isLowered c = true := by
  have hsigma : c ≠ 'Σ' := by
    rintro rfl
    revert h
    decide +kernel
  rw [isLowered, lowerChar_eq_self hc h]
  simpa using hsigma

theorem isLowered_of_mem_images {r : Unicode.CaseRun} (hr : r ∈ Unicode.lowerRuns) {n : Nat}
    (hn : n ∈ r.images) : isLowered (Char.ofNat n) = true := by
  have hsettled : Unicode.lowerRuns.all (fun r => r.settles Unicode.lowerRuns) = true := by
    decide +kernel
  have hdotted : Unicode.lowerRuns.all
      (fun r => Nat.blt r.lastImage 'İ'.toNat || Nat.blt 'İ'.toNat r.image) = true := by
    decide +kernel
  by_cases hv : n.isValidChar
  · have hcode : (Char.ofNat n).toNat = n := by rw [Char.ofNat, dif_pos hv]; rfl
    apply isLowered_of_map_eq_self
    · intro hc
      have hn' : n = 'İ'.toNat := by rw [← hc, hcode]
      have hbounds := Unicode.CaseRun.bounds_of_mem_images hn
      have hout := List.all_eq_true.mp hdotted r hr
      rw [Bool.or_eq_true, Nat.blt_eq, Nat.blt_eq] at hout
      omega
    · rw [hcode]
      exact Unicode.CaseRun.map_eq_self_of_settles (List.all_eq_true.mp hsettled r hr) hn
  · rw [Char.ofNat, dif_neg hv]
    decide +kernel

theorem isLowered_of_mem_lowerChar {c d : Char} (h : d ∈ lowerChar c) : isLowered d = true := by
  rw [lowerChar] at h
  split at h
  case isTrue =>
    have hdotted : ['i', '\u0307'].all isLowered = true := by decide +kernel
    exact List.all_eq_true.mp hdotted d h
  case isFalse hc =>
    rw [List.mem_singleton.mp h]
    rcases Unicode.CaseRun.map_eq_self_or_mem_images Unicode.lowerRuns c.toNat with hself | hmoved
    · rw [hself, Char.ofNat_toNat]
      exact isLowered_of_map_eq_self hc hself
    · obtain ⟨r, hr, hn⟩ := hmoved
      exact isLowered_of_mem_images hr hn

theorem isLowered_of_mem_lowerAfter {before t : Text} {d : Char} (h : d ∈ lowerAfter before t) :
    isLowered d = true := by
  induction t generalizing before with
  | nil => cases h
  | cons c t ih =>
    rcases List.mem_append.mp h with h | h
    · split at h
      · rw [List.mem_singleton.mp h]
        decide +kernel
      · exact isLowered_of_mem_lowerChar h
    · exact ih h

theorem lowerAfter_eq_self {before t : Text} (h : ∀ c ∈ t, isLowered c = true) :
    lowerAfter before t = t := by
  induction t generalizing before with
  | nil => rfl
  | cons c t ih =>
    obtain ⟨hsigma, hchar⟩ : c ≠ 'Σ' ∧ lowerChar c = [c] := by
      simpa [isLowered] using h c List.mem_cons_self
    have hrest : lowerAfter (c :: before) t = t :=
      ih fun d hd => h d (List.mem_cons_of_mem c hd)
    rw [lowerAfter, hrest, if_neg fun hs => hsigma hs.1, hchar]
    rfl

theorem mem_lowerAfter_of_isLowered {before t : Text} {c : Char} (hc : isLowered c = true)
    (h : c ∈ t) : c ∈ lowerAfter before t := by
  induction t generalizing before with
  | nil => cases h
  | cons d t ih =>
    rw [lowerAfter, List.mem_append]
    rcases List.mem_cons.mp h with rfl | h
    · obtain ⟨hsigma, hchar⟩ : c ≠ 'Σ' ∧ lowerChar c = [c] := by simpa [isLowered] using hc
      left
      rw [if_neg fun hs => hsigma hs.1, hchar]
      exact List.mem_cons_self
    · exact .inr (ih h)

end Text

theorem lowerCase_lowerCase (s : String) : lowerCase (lowerCase s) = lowerCase s := by
  rw [lowerCase, lowerCase, String.toList_ofList, Text.lower, Text.lower,
    Text.lowerAfter_eq_self fun _ hd => Text.isLowered_of_mem_lowerAfter hd]

/-- A character without case stays in a text that is put into lower case. -/
theorem mem_lowerCase {s : String} {c : Char} (hc : Text.isLowered c = true)
    (h : c ∈ s.toList) : c ∈ (lowerCase s).toList := by
  rw [lowerCase, String.toList_ofList]
  exact Text.mem_lowerAfter_of_isLowered hc h

end CommentTags
