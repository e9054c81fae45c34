import Mathlib.Data.List.Basic
import Mathlib.Data.List.TakeWhile
import CommentTags.Pattern.Reader.State

/-!
Reading where more text follows. A reader that succeeds before the end of a text takes the same
steps when a closing bracket, and anything after it, follows that text; unless the text ends
inside a comment, which would then go on.
-/
namespace CommentTags.Pattern.Reader

/-- A text that can stand after a pattern in brackets. -/
structure Closes (tail : Text) : Prop where
  head : tail.head? = some ')'
  /-- No named class that the pattern leaves open ends in it. -/
  named : ":]".toList.isPrefixOf? (tail.dropWhile (· != ':')) = none

def State.followedBy (s : State) (tail : Text) : State := { s with rest := s.rest ++ tail }

/-- Where reading `x` from `s` succeeds and leaves no comment open, none was open before, and `Q`
tells what answer `y` there is with a tail. -/
def Yields {α γ : Type} (Q : γ → α → State → Prop) (s : State) (x : Option (α × State)) (y : γ) :
    Prop :=
  ∀ a s', x = some (a, s') → s'.openComment = false → s.openComment = false ∧ Q y a s'

/-- What was read before the tail is read with the tail as well, if no comment is left open. -/
abbrev Lifts {α : Type} (tail : Text) (s : State) (x y : Option (α × State)) : Prop :=
  Yields (fun y a s' => y = some (a, s'.followedBy tail)) s x y

variable {α β γ : Type} {Q : γ → α → State → Prop} {tail : Text} {s : State} {c : Char}

namespace Yields

theorem none {y : γ} : Yields Q s Option.none y := by
  rintro a s' ⟨⟩

/-- Only the comment that may be open counts of the state from which the reading began. -/
theorem of_openComment {s₀ : State} {x : Option (α × State)} {y : γ} (h : Yields Q s x y)
    (ho : s.openComment = s₀.openComment) : Yields Q s₀ x y :=
  fun a s' hx hs' => ho ▸ h a s' hx hs'

theorem bind {Q : Option γ → α → State → Prop} {x y : Option (β × State)}
    {f : β × State → Option (α × State)} {g : β × State → Option γ} (hx : Lifts tail s x y)
    (hf : ∀ b s', x = some (b, s') → Yields Q s' (f (b, s')) (g (b, s'.followedBy tail))) :
    Yields Q s (x >>= f) (y >>= g) := by
  intro a s₂ h ho
  obtain ⟨⟨b, s₁⟩, hx₁, hb⟩ := Option.bind_eq_some_iff.mp h
  obtain ⟨ho₁, hg⟩ := hf b s₁ hx₁ a s₂ hb ho
  obtain ⟨ho₀, hy⟩ := hx b s₁ hx₁ ho₁
  exact ⟨ho₀, by rw [hy]; exact hg⟩

theorem pure {a : α} {s' : State} (h : s'.openComment = false → s.openComment = false) :
    Lifts tail s (some (a, s')) (some (a, s'.followedBy tail)) := by
  rintro b t ⟨⟩ ho
  exact ⟨h ho, rfl⟩

theorem map {x y : Option (α × State)} (f : α → β) (hx : Lifts tail s x y) :
    Lifts tail s (x.map fun p => (f p.1, p.2)) (y.map fun p => (f p.1, p.2)) := by
  intro b s₂ h ho
  obtain ⟨⟨a, s₁⟩, hx₁, hb⟩ := Option.map_eq_some_iff.mp h
  cases hb
  obtain ⟨ho₀, hy⟩ := hx a s₁ hx₁ ho
  exact ⟨ho₀, by rw [hy]; rfl⟩

end Yields

namespace State

variable (s)

theorem bump_followedBy (h : s.peek = some c) :
    (s.followedBy tail).bump = s.bump.followedBy tail := by
  obtain ⟨rest, hrest⟩ := List.head?_eq_some_iff.mp h
  simp [bump, followedBy, hrest]

variable {s}

end State

theorem skipBlanks_append (ht : Closes tail) {inComment : Bool} {t rest : Text}
    (h : skipBlanks inComment t = (rest, false)) :
    skipBlanks inComment (t ++ tail) = (rest ++ tail, false) := by
  induction t generalizing inComment with
  | nil =>
    obtain ⟨more, rfl⟩ := List.head?_eq_some_iff.mp ht.head
    cases h
    simp [skipBlanks, isBlank]
  | cons c t ih =>
    rw [List.cons_append]
    rw [skipBlanks] at h ⊢
    split at h
    case isTrue hc => rw [if_pos hc]; exact ih h
    case isFalse hc =>
      rw [if_neg hc]
      split at h
      case isTrue hb => rw [if_pos hb]; exact ih h
      case isFalse hb =>
        rw [if_neg hb]
        split at h
        case isTrue hs => rw [if_pos hs]; exact ih h
        case isFalse hs =>
          rw [if_neg hs]
          cases h
          rfl

namespace State

theorem skip_of_verbose (hv : s.flags.verbose = true) :
    s.skip = { s with
      rest := (skipBlanks false s.rest).1
      openComment := s.openComment || (skipBlanks false s.rest).2 } := by
  rw [skip, if_pos hv]

theorem skip_of_not_verbose (hv : ¬s.flags.verbose = true) : s.skip = s := by
  rw [skip, if_neg hv]

theorem skip_followedBy (ht : Closes tail) (ho : s.skip.openComment = false) :
    s.openComment = false ∧ (s.followedBy tail).skip = s.skip.followedBy tail := by
  by_cases hv : s.flags.verbose = true
  · rw [skip_of_verbose hv] at ho ⊢
    obtain ⟨hs, hcut⟩ := Bool.or_eq_false_iff.mp ho
    have happend : skipBlanks false (s.rest ++ tail) = ((skipBlanks false s.rest).1 ++ tail, false) :=
      skipBlanks_append ht (Prod.ext rfl hcut)
    refine ⟨hs, ?_⟩
    rw [skip_of_verbose (s := s.followedBy tail) hv]
    simp only [followedBy, happend, hcut]
  · rw [skip_of_not_verbose hv] at ho ⊢
    exact ⟨ho, skip_of_not_verbose (s := s.followedBy tail) hv⟩

end State

namespace Yields

variable {x : Option (α × State)} {k : State → γ} {s₂ : State}

/-- Blanks are skipped alike. -/
theorem skip (ht : Closes tail) (hs : (s.followedBy tail).skip = s₂)
    (h : Yields Q s.skip x (k (s.skip.followedBy tail))) : Yields Q s x (k s₂) := by
  intro a s' hx ho
  obtain ⟨hskip, hy⟩ := h a s' hx ho
  obtain ⟨hopen, he⟩ := State.skip_followedBy ht hskip
  exact ⟨hopen, by rw [← hs, he]; exact hy⟩

theorem bump (hc : s.peek = some c) (hs : (s.followedBy tail).bump = s₂)
    (h : Yields Q s.bump x (k (s.bump.followedBy tail))) : Yields Q s x (k s₂) := by
  rw [← hs, State.bump_followedBy s hc]
  exact h.of_openComment rfl

theorem bumpSkip (ht : Closes tail) (hc : s.peek = some c)
    (hs : (s.followedBy tail).bumpSkip = s₂)
    (h : Yields Q s.bumpSkip x (k (s.bumpSkip.followedBy tail))) : Yields Q s x (k s₂) := by
  rw [← hs]
  exact bump hc rfl (k := fun s => k s.skip) (skip ht rfl h)

end Yields

namespace State

end State

end CommentTags.Pattern.Reader
