import Mathlib.Data.List.Basic
import CommentTags.Toml.Quoted

/-!
A text between quotes is read as it was written, whichever style it was written in.
-/
namespace CommentTags.Toml

theorem isPlain_ne_lineEnds {c : Char} (h : isPlain c = true) : c ≠ '\n' ∧ c ≠ '\r' := by
  constructor
  · rintro rfl
    cases h
  · rintro rfl
    cases h

/-- Characters that do not stand for themselves are ASCII. -/
theorem toNat_lt_of_not_isPlain {c : Char} (h : isPlain c = false) : c.toNat < 128 := by
  simp only [isPlain, Bool.or_eq_false_iff, Bool.and_eq_false_iff, decide_eq_false_iff_not] at h
  omega

namespace Style

variable {s : Style} {c : Char} {t w rest : Text} {run : Nat}

theorem quote_eq_or (s : Style) : s.quote = '"' ∨ s.quote = '\'' := by
  unfold quote
  split
  · exact .inl rfl
  · exact .inr rfl

theorem delimiter_eq_cons (s : Style) : ∃ u, s.delimiter = s.quote :: u := by
  unfold delimiter
  split <;> exact ⟨_, rfl⟩

theorem backslash_ne_quote (s : Style) : '\\' ≠ s.quote := by
  rcases quote_eq_or s with h | h <;> rw [h] <;> decide

/-! What one character of the content does. -/

theorem body?_content :
    s.body? .content (c :: t) =
      if c = s.quote then
        if s.spansLines then
          match t with
          | a :: b :: rest =>
            if a = s.quote ∧ b = s.quote then some (s.closing rest)
            else (s.body? .content t).map fun r => (c :: r.1, r.2)
          | _ => none
        else some ([], t)
      else if c = '\\' ∧ s.hasEscapes then s.body? .escape t
      else if c = '\r' ∧ s.spansLines then s.body? .lineFeed t
      else if isPlain c ∨ c = '\n' ∧ s.spansLines then
        (s.body? .content t).map fun r => (c :: r.1, r.2)
      else none := by
  rw [body?.eq_def]
  cases s.spansLines <;> rfl

theorem body?_self (hquote : c ≠ s.quote) (hescape : ¬(c = '\\' ∧ s.hasEscapes = true))
    (hc : isPlain c = true ∨ c = '\n' ∧ s.spansLines = true) :
    s.body? .content (c :: t) = (s.body? .content t).map fun r => (c :: r.1, r.2) := by
  have hreturn : ¬(c = '\r' ∧ s.spansLines = true) := by
    rintro ⟨rfl, -⟩
    rcases hc with hc | ⟨hc, -⟩
    · cases hc
    · cases hc
  rw [body?_content, if_neg hquote, if_neg hescape, if_neg hreturn, if_pos hc]

theorem body?_quote (hs : s.spansLines = true) {a b : Char} (h : ¬(a = s.quote ∧ b = s.quote)) :
    s.body? .content (s.quote :: a :: b :: t) =
      (s.body? .content (a :: b :: t)).map fun r => (s.quote :: r.1, r.2) := by
  rw [body?_content, if_pos rfl, if_pos hs]
  exact if_neg h

theorem body?_delimiter_of_line (hs : s.spansLines = false) :
    s.body? .content (s.delimiter ++ rest) = some ([], rest) := by
  have hd : s.delimiter = [s.quote] := by simp [delimiter, hs]
  have hs' : ¬s.spansLines = true := by simp [hs]
  rw [hd, List.singleton_append, body?_content, if_pos rfl, if_neg hs']

theorem body?_delimiter (hs : s.spansLines = true) (rest : Text) :
    s.body? .content (s.delimiter ++ rest) = some (s.closing rest) := by
  have hd : s.delimiter = [s.quote, s.quote, s.quote] := by simp [delimiter, hs]
  rw [hd]
  change s.body? .content (s.quote :: s.quote :: s.quote :: rest) = _
  rw [body?_content, if_pos rfl, if_pos hs]
  exact if_pos ⟨rfl, rfl⟩

/-! Escapes. -/

theorem body?_backslash (he : s.hasEscapes = true) :
    s.body? .content ('\\' :: t) = s.body? .escape t := by
  rw [body?_content, if_neg (backslash_ne_quote s), if_pos ⟨rfl, he⟩]

theorem body?_escapeChar {e : Char} (h : escapeChar? c = some e) :
    s.body? .escape (c :: t) = (s.body? .content t).map fun r => (e :: r.1, r.2) := by
  rw [body?, h]

theorem body?_digits {more value d : Nat} (h : hexValue? c = some d) :
    s.body? (.digits (more + 2) value) (c :: t) =
      s.body? (.digits (more + 1) (value * 16 + d)) t := by
  have hmore : ¬more + 2 ≤ 1 := by omega
  simp only [body?, h, Option.bind_eq_bind, Option.bind_some, if_neg hmore]
  rfl

theorem body?_lastDigit {value d : Nat} (h : hexValue? c = some d)
    (hv : (value * 16 + d).isValidChar) :
    s.body? (.digits 1 value) (c :: t) =
      (s.body? .content t).map fun r => (Char.ofNat (value * 16 + d) :: r.1, r.2) := by
  simp only [body?, h, Option.bind_eq_bind, Option.bind_some, if_pos (Nat.le_refl 1), if_pos hv]

/-- An ASCII character is written with two digits after two zeros. -/
theorem hexDigits_of_lt {n : Nat} (h : n < 128) :
    ∃ a b, hexDigits 4 n = ['0', '0', a, b] ∧
      hexValue? a = some (n / 16) ∧ hexValue? b = some (n % 16) := by
  have hall : ∀ n < 128, ((hexDigits 4 n).take 2 = ['0', '0'] ∧ (hexDigits 4 n).length = 4) ∧
      (hexDigits 4 n)[2]?.bind hexValue? = some (n / 16) ∧
      (hexDigits 4 n)[3]?.bind hexValue? = some (n % 16) := by
    decide +kernel
  obtain ⟨⟨hzeros, hlength⟩, ha, hb⟩ := hall n h
  generalize hexDigits 4 n = digits at *
  obtain ⟨x, y, a, b, rfl⟩ := List.length_eq_four.mp hlength
  cases hzeros
  exact ⟨a, b, rfl, ha, hb⟩

theorem body?_codePoint (h : c.toNat < 128) :
    s.body? .escape ('u' :: hexDigits 4 c.toNat ++ rest) =
      (s.body? .content rest).map fun r => (c :: r.1, r.2) := by
  obtain ⟨a, b, hdigits, ha, hb⟩ := hexDigits_of_lt h
  have hvalue : ((0 * 16 + 0) * 16 + c.toNat / 16) * 16 + c.toNat % 16 = c.toNat := by omega
  have hvalid : (((0 * 16 + 0) * 16 + c.toNat / 16) * 16 + c.toNat % 16).isValidChar := by
    rw [hvalue]
    exact c.valid
  have hzero : hexValue? '0' = some 0 := rfl
  rw [hdigits]
  change s.body? (.digits 4 0) ('0' :: '0' :: a :: b :: rest) = _
  rw [body?_digits hzero, body?_digits hzero, body?_digits ha, body?_lastDigit hb hvalid, hvalue,
    Char.ofNat_toNat]

theorem body?_escaped (he : s.hasEscapes = true) (h : c.toNat < 128) :
    s.body? .content (escaped c ++ rest) =
      (s.body? .content rest).map fun r => (c :: r.1, r.2) := by
  unfold escaped
  split
  case h_8 =>
    rw [List.cons_append, body?_backslash he]
    exact body?_codePoint h
  all_goals
    rw [List.cons_append, body?_backslash he]
    exact body?_escapeChar rfl

/-! Whole texts. -/

/-- What may stand between the quotes for a text, after so many quotes in a row. -/
inductive Written (s : Style) : Nat → Text → Text → Prop where
  | nil {run : Nat} : Written s run [] []
  | self {run : Nat} {c : Char} {t w : Text} (hquote : c ≠ s.quote)
      (hescape : ¬(c = '\\' ∧ s.hasEscapes = true))
      (hc : isPlain c = true ∨ c = '\n' ∧ s.spansLines = true) (hw : Written s 0 t w) :
      Written s run (c :: t) (c :: w)
  | quote {run : Nat} {t w : Text} (hs : s.spansLines = true) (hrun : run < 2)
      (hw : Written s (run + 1) t w) : Written s run (s.quote :: t) (s.quote :: w)
  | escaped {run : Nat} {c : Char} {t w : Text} (he : s.hasEscapes = true) (hc : c.toNat < 128)
      (hw : Written s 0 t w) : Written s run (c :: t) (Toml.escaped c ++ w)

theorem escaped_eq_cons (c : Char) : ∃ u, Toml.escaped c = '\\' :: u := by
  unfold Toml.escaped
  split <;> exact ⟨_, rfl⟩

theorem closing_of_head?_ne (h : rest.head? ≠ some s.quote) :
    s.closing rest = ([], rest) ∧ s.closing (s.quote :: rest) = ([s.quote], rest) ∧
      s.closing (s.quote :: s.quote :: rest) = ([s.quote, s.quote], rest) := by
  have hhead : ∀ a u, rest = a :: u → a ≠ s.quote := by
    rintro a u rfl rfl
    exact h rfl
  refine ⟨?_, ?_, ?_⟩
  · match rest, hhead with
    | [], _ => rfl
    | [a], hhead => exact if_neg (hhead a [] rfl)
    | a :: b :: u, hhead => exact if_neg (hhead a (b :: u) rfl)
  · match rest, hhead with
    | [], _ => exact if_pos rfl
    | a :: u, hhead => exact (if_pos rfl).trans (if_neg (hhead a u rfl))
  · exact (if_pos rfl).trans (if_pos rfl)

/-- Two quotes after a quote of the text: the closing ones, of which the text has at most one
before them. -/
theorem Written.eq_of_quotes {u : Text} (hw : Written s (run + 1) t w)
    (h : w ++ (s.delimiter ++ rest) = s.quote :: s.quote :: u) :
    (t = [] ∧ w = []) ∨ (t = [s.quote] ∧ w = [s.quote]) := by
  cases hw with
  | nil => exact .inl ⟨rfl, rfl⟩
  | self hquote => exact (hquote (List.cons_eq_cons.mp h).1).elim
  | @escaped _ c =>
    obtain ⟨v, hv⟩ := escaped_eq_cons c
    rw [hv] at h
    exact (backslash_ne_quote s (List.cons_eq_cons.mp h).1).elim
  | quote hs hrun hw =>
    have h := (List.cons_eq_cons.mp h).2
    cases hw with
    | nil => exact .inr ⟨rfl, rfl⟩
    | self hquote => exact (hquote (List.cons_eq_cons.mp h).1).elim
    | quote _ hrun' => omega
    | @escaped _ c =>
      obtain ⟨v, hv⟩ := escaped_eq_cons c
      rw [hv] at h
      exact (backslash_ne_quote s (List.cons_eq_cons.mp h).1).elim

/-- What was written up to the closing quotes is read up to them. -/
theorem body?_written (hw : Written s run t w)
    (hrest : s.spansLines = true → rest.head? ≠ some s.quote) :
    s.body? .content (w ++ (s.delimiter ++ rest)) = some (t, rest) := by
  induction hw with
  | nil =>
    cases hs : s.spansLines with
    | false => exact body?_delimiter_of_line hs
    | true => exact (body?_delimiter hs rest).trans (congrArg some (closing_of_head?_ne (hrest hs)).1)
  | self hquote hescape hc hw ih =>
    rw [List.cons_append, body?_self hquote hescape hc, ih]
    rfl
  | escaped he hc hw ih =>
    rw [List.append_assoc, body?_escaped he hc, ih]
    rfl
  | @quote run t w hs hrun hw ih =>
    have hdelimiter : s.delimiter = [s.quote, s.quote, s.quote] := by simp [delimiter, hs]
    obtain ⟨a, b, u, hu⟩ : ∃ a b u, w ++ (s.delimiter ++ rest) = a :: b :: u := by
      rw [hdelimiter]
      match w with
      | [] => exact ⟨_, _, _, rfl⟩
      | [x] => exact ⟨_, _, _, rfl⟩
      | x :: y :: w => exact ⟨_, _, _, rfl⟩
    by_cases hab : a = s.quote ∧ b = s.quote
    · -- The quotes end here: all but the last three of them belong to the text.
      obtain ⟨rfl, rfl⟩ := hab
      obtain ⟨hnone, hone, htwo⟩ := closing_of_head?_ne (hrest hs)
      have hthree := body?_delimiter hs (s.quote :: rest)
      have hfour := body?_delimiter hs (s.quote :: s.quote :: rest)
      rw [hdelimiter] at hthree hfour ⊢
      rcases hw.eq_of_quotes hu with ⟨rfl, rfl⟩ | ⟨rfl, rfl⟩
      · exact hthree.trans (congrArg some hone)
      · exact hfour.trans (congrArg some htwo)
    · rw [List.cons_append, hu, body?_quote hs hab, ← hu, ih]
      rfl

/-! The written forms are among those. -/

theorem written_inside_of_hasEscapes (he : s.hasEscapes = true) :
    Written s run t (s.inside run t) := by
  have hq : s.quote = '"' := if_pos he
  have he' : ¬(!s.hasEscapes) = true := by simp [he]
  induction t generalizing run with
  | nil => exact .nil
  | cons c t ih =>
    rw [inside, if_neg he']
    split
    case isTrue hc =>
      subst hc
      by_cases hrun : run < if s.spansLines then 2 else 0
      · have hs : s.spansLines = true := by
          by_contra hs
          rw [if_neg hs] at hrun
          omega
        rw [if_pos hrun, ← hq]
        rw [if_pos hs] at hrun
        exact .quote hs hrun ih
      · rw [if_neg hrun]
        exact .escaped he (by decide) ih
    case isFalse hc =>
      have hquote : c ≠ s.quote := hq ▸ hc
      split
      case isTrue hline =>
        refine .self hquote ?_ (.inr hline) ih
        rintro ⟨rfl, -⟩
        cases hline.1
      case isFalse =>
        split
        case isTrue hplain =>
          exact .self hquote (fun h => hplain.2.2 h.1) (.inl hplain.1) ih
        case isFalse hplain =>
          refine .escaped he ?_ ih
          by_cases hp : isPlain c = true
          · by_cases ht : c = '\t'
            · subst ht
              decide
            · have hb : c = '\\' := by
                by_contra hb
                exact hplain ⟨hp, ht, hb⟩
              subst hb
              decide
          · exact toNat_lt_of_not_isPlain (by simpa using hp)

theorem le_longestRun (q : Char) (run : Nat) (t : Text) : run ≤ longestRun q run t := by
  induction t generalizing run with
  | nil => exact Nat.le_refl run
  | cons c t ih =>
    rw [longestRun]
    split
    · exact Nat.le_trans (Nat.le_succ run) (ih (run + 1))
    · exact Nat.le_max_left run _

/-- Without escapes a text stands as it is. -/
theorem inside_of_not_hasEscapes (he : s.hasEscapes = false) : s.inside run t = t := by
  induction t generalizing run with
  | nil => rfl
  | cons c t ih =>
    rw [inside, he, ih]
    rfl

theorem written_self (he : s.hasEscapes = false) (hcontrol : ∀ c ∈ t, isControl c = false)
    (hlines : s.spansLines = true ∨ '\n' ∉ t)
    (hrun : longestRun s.quote run t ≤ if s.spansLines then 2 else 0) : Written s run t t := by
  have he' : ¬s.hasEscapes = true := by simp [he]
  induction t generalizing run with
  | nil => exact .nil
  | cons c t ih =>
    have hcontrol' : ∀ c ∈ t, isControl c = false :=
      fun d hd => hcontrol d (List.mem_cons_of_mem c hd)
    have hlines' : s.spansLines = true ∨ '\n' ∉ t :=
      hlines.imp_right fun h hmem => h (List.mem_cons_of_mem c hmem)
    rw [longestRun] at hrun
    split at hrun
    case isTrue hc =>
      subst hc
      have hle := Nat.le_trans (le_longestRun s.quote (run + 1) t) hrun
      have hs : s.spansLines = true := by
        by_contra hs
        rw [if_neg hs] at hle
        omega
      rw [if_pos hs] at hle
      exact .quote hs hle (ih hcontrol' hlines' hrun)
    case isFalse hc =>
      have hw := ih hcontrol' hlines' (Nat.le_trans (Nat.le_max_right _ _) hrun)
      refine .self hc (fun h => he' h.2) ?_ hw
      have hown := hcontrol c List.mem_cons_self
      by_cases hplain : isPlain c = true
      · exact .inl hplain
      · have hline : c = '\n' := by
          by_contra hline
          rw [isControl] at hown
          simp [hplain, hline] at hown
        refine .inr ⟨hline, hlines.resolve_right fun h => h ?_⟩
        rw [hline]
        exact List.mem_cons_self

theorem written_inside (h : s.hasEscapes = true ∨ s.suits t = true) :
    Written s 0 t (s.inside 0 t) := by
  by_cases he : s.hasEscapes = true
  · exact written_inside_of_hasEscapes he
  · have he' : s.hasEscapes = false := by simpa using he
    have hsuits := h.resolve_left he
    simp only [suits, Bool.and_eq_true, Bool.or_eq_true, Bool.not_eq_true', decide_eq_true_eq,
      List.any_eq_false, List.contains_eq_mem, decide_eq_false_iff_not] at hsuits
    obtain ⟨⟨⟨hcontrol, -⟩, hlines⟩, hrun⟩ := hsuits
    rw [inside_of_not_hasEscapes he']
    exact written_self he' (fun c hc => by simpa using hcontrol c hc) hlines hrun

theorem suits_ofText (t : Text) : (ofText t).hasEscapes = true ∨ (ofText t).suits t = true := by
  unfold ofText
  split
  · exact .inl rfl
  split
  case isTrue h => exact .inr h
  split
  · exact .inl rfl
  split
  case isTrue h => exact .inr h
  split <;> exact .inl rfl

/-! From the opening quotes on. -/

theorem dropLineEnd_cons (hn : c ≠ '\n') (hr : c ≠ '\r') : dropLineEnd (c :: t) = c :: t := by
  unfold dropLineEnd
  split
  case h_1 h => exact (hn (List.cons_eq_cons.mp h).1).elim
  case h_2 h => exact (hr (List.cons_eq_cons.mp h).1).elim
  case h_3 => rfl

theorem Written.head?_ne (hs : s.spansLines = false) (hw : Written s run t w) :
    w.head? ≠ some s.quote := by
  cases hw with
  | nil => exact fun h => by cases h
  | self hquote => exact fun h => hquote (Option.some.inj h)
  | quote hs' => simp [hs] at hs'
  | @escaped _ c =>
    obtain ⟨u, hu⟩ := escaped_eq_cons c
    rw [hu]
    exact fun h => backslash_ne_quote s (Option.some.inj h)

theorem string?_quote {x : Text} (hs : s.spansLines = false)
    (h : ∀ u, x ≠ s.quote :: s.quote :: u) : string? (s.quote :: x) = s.body? .content x := by
  obtain ⟨e, l⟩ := s
  cases hs
  cases e
  all_goals
    simp only [quote] at h ⊢
    unfold string?
    split <;> simp_all [basic, literal]

theorem string?_delimiter (hs : s.spansLines = true) (x : Text) :
    string? (s.delimiter ++ x) = s.body? .content (dropLineEnd x) := by
  obtain ⟨e, l⟩ := s
  cases hs
  cases e <;> rfl

theorem quote_ne_lineEnds (s : Style) : s.quote ≠ '\n' ∧ s.quote ≠ '\r' := by
  rcases quote_eq_or s with h | h <;> rw [h] <;> decide

theorem Written.dropLineEnd_append (hw : Written s run t w) (hlines : '\n' ∉ t) (rest : Text) :
    dropLineEnd (w ++ (s.delimiter ++ rest)) = w ++ (s.delimiter ++ rest) := by
  have hhead : ∀ c u, w ++ (s.delimiter ++ rest) = c :: u → c ≠ '\n' ∧ c ≠ '\r' := by
    intro c u h
    cases hw with
    | nil =>
      obtain ⟨v, hv⟩ := delimiter_eq_cons s
      rw [hv] at h
      rw [← (List.cons_eq_cons.mp h).1]
      exact quote_ne_lineEnds s
    | self hquote hescape hc =>
      rw [← (List.cons_eq_cons.mp h).1]
      rcases hc with hc | ⟨rfl, -⟩
      · exact isPlain_ne_lineEnds hc
      · exact (hlines List.mem_cons_self).elim
    | quote =>
      rw [← (List.cons_eq_cons.mp h).1]
      exact quote_ne_lineEnds s
    | @escaped _ c =>
      obtain ⟨v, hv⟩ := escaped_eq_cons c
      rw [hv] at h
      rw [← (List.cons_eq_cons.mp h).1]
      decide
  cases hx : w ++ (s.delimiter ++ rest) with
  | nil => rfl
  | cons c u =>
    obtain ⟨hn, hr⟩ := hhead c u hx
    exact dropLineEnd_cons hn hr

theorem string?_write (hw : Written s 0 t (s.inside 0 t)) (hrest : rest.head? ≠ some s.quote) :
    string? (s.write t ++ rest) = some (t, rest) := by
  have hbody := body?_written hw fun _ => hrest
  by_cases hs : s.spansLines = true
  · rw [write, List.append_assoc, List.append_assoc, List.append_assoc, string?_delimiter hs]
    by_cases ht : '\n' ∈ t
    · have hfirst : (s.spansLines && t.contains '\n') = true := by simp [hs, ht]
      rw [if_pos hfirst]
      exact hbody
    · have hfirst : ¬(s.spansLines && t.contains '\n') = true := by simp [ht]
      rw [if_neg hfirst, List.nil_append, hw.dropLineEnd_append ht, hbody]
  · have hs' : s.spansLines = false := by simpa using hs
    have hd : s.delimiter = [s.quote] := by simp [delimiter, hs']
    have hfirst : ¬(s.spansLines && t.contains '\n') = true := by simp [hs']
    have hwrite : s.write t ++ rest = s.quote :: (s.inside 0 t ++ (s.delimiter ++ rest)) := by
      rw [write, if_neg hfirst, hd]
      simp
    have hopen : ∀ u, s.inside 0 t ++ (s.delimiter ++ rest) ≠ s.quote :: s.quote :: u := by
      intro u h
      cases hi : s.inside 0 t with
      | nil =>
        rw [hi, hd] at h
        have hrest' : rest = s.quote :: u := (List.cons_eq_cons.mp h).2
        exact hrest (congrArg List.head? hrest')
      | cons c v =>
        have hne := hw.head?_ne hs'
        rw [hi] at h hne
        exact hne (congrArg some (List.cons_eq_cons.mp h).1)
    rw [hwrite, string?_quote hs' hopen, hbody]

end Style

/-- A text in quotes is found again, if no quote follows it. -/
theorem string?_quoted {t rest : Text} (hdouble : rest.head? ≠ some '"')
    (hsingle : rest.head? ≠ some '\'') : string? (quoted t ++ rest) = some (t, rest) := by
  apply Style.string?_write (Style.written_inside (Style.suits_ofText t))
  rcases Style.quote_eq_or (Style.ofText t) with h | h <;> rw [h]
  · exact hdouble
  · exact hsingle

end CommentTags.Toml
