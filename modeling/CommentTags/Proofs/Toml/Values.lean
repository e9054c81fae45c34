import Mathlib.Data.List.TakeWhile
import CommentTags.Proofs.Toml.Quoted
import CommentTags.Toml.Writer

/-!
Keys and values are read as they were written.
-/
namespace CommentTags.Toml

/-! A word up to the first character that cannot belong to it. -/

section

variable {p : Char → Bool} {t rest : Text}

theorem takeWhile_word (ht : ∀ c ∈ t, p c = true) (hrest : ∀ c ∈ rest.head?, p c = false) :
    (t ++ rest).takeWhile p = t := by
  rw [List.takeWhile_append_of_pos ht]
  cases rest with
  | nil => exact List.append_nil t
  | cons c rest => rw [List.takeWhile_cons_of_neg (by simp [hrest c rfl]), List.append_nil]

theorem dropWhile_word (ht : ∀ c ∈ t, p c = true) (hrest : ∀ c ∈ rest.head?, p c = false) :
    (t ++ rest).dropWhile p = rest := by
  rw [List.dropWhile_append_of_pos ht]
  cases rest with
  | nil => rfl
  | cons c rest => exact List.dropWhile_cons_of_neg (by simp [hrest c rfl])

end

theorem skipSpaces_cons {c : Char} {t : Text} (h : isSpace c = false) :
    skipSpaces (c :: t) = c :: t :=
  List.dropWhile_cons_of_neg (by simp [h])

/-! Keys. -/

/-- The key begins with a bare character or a quote. -/
def BeginsKey (c : Char) : Prop := isBare c = true ∨ c = '"' ∨ c = '\''

instance : DecidablePred BeginsKey := fun c =>
  inferInstanceAs (Decidable (isBare c = true ∨ c = '"' ∨ c = '\''))

theorem BeginsKey.ne {c d : Char} (h : BeginsKey c) (hd : ¬BeginsKey d) : c ≠ d := by
  rintro rfl
  exact hd h

theorem BeginsKey.isSpace_eq {c : Char} (h : BeginsKey c) : isSpace c = false := by
  have hblank : c ≠ ' ' := h.ne (by decide)
  have htab : c ≠ '\t' := h.ne (by decide)
  simp [isSpace, hblank, htab]

theorem Style.write_of_line {s : Style} (hs : s.spansLines = false) (t : Text) :
    s.write t = s.quote :: (s.inside 0 t ++ s.delimiter) := by
  have hfirst : ¬(s.spansLines && t.contains '\n') = true := by simp [hs]
  have hd : s.delimiter = [s.quote] := by simp [delimiter, hs]
  rw [write, if_neg hfirst, hd]
  simp

/-- A key is written bare or in one of the styles of one line. -/
theorem keyText_eq (key : Text) :
    (key ≠ [] ∧ (∀ c ∈ key, isBare c = true) ∧ keyText key = key) ∨
      ∃ s, (s = Style.basic ∨ s = Style.literal) ∧ s.Written 0 key (s.inside 0 key) ∧
        keyText key = s.quote :: (s.inside 0 key ++ s.delimiter) := by
  unfold keyText
  split
  case isTrue h =>
    left
    simpa using h
  right
  split
  · exact ⟨.basic, .inl rfl, Style.written_inside (.inl rfl), Style.write_of_line rfl key⟩
  split
  case isTrue h =>
    exact ⟨.literal, .inr rfl, Style.written_inside (.inr h), Style.write_of_line rfl key⟩
  · exact ⟨.basic, .inl rfl, Style.written_inside (.inl rfl), Style.write_of_line rfl key⟩

theorem keyText_eq_cons (key : Text) : ∃ c u, keyText key = c :: u ∧ BeginsKey c := by
  rcases keyText_eq key with ⟨hne, hbare, h⟩ | ⟨s, -, -, h⟩
  · obtain ⟨c, u, rfl⟩ := List.exists_cons_of_ne_nil hne
    exact ⟨c, u, h, .inl (hbare c List.mem_cons_self)⟩
  · refine ⟨s.quote, _, h, .inr ?_⟩
    exact Style.quote_eq_or s

theorem key?_keyText (key : Text) {rest : Text} (hrest : ∀ c ∈ rest.head?, isBare c = false) :
    key? (keyText key ++ rest) = some (key, rest) := by
  rcases keyText_eq key with ⟨hne, hbare, h⟩ | ⟨s, hs, hw, h⟩
  · rw [h]
    have htake := takeWhile_word hbare hrest
    have hdrop := dropWhile_word hbare hrest
    obtain ⟨c, u, rfl⟩ := List.exists_cons_of_ne_nil hne
    have hc := hbare c List.mem_cons_self
    unfold key?
    split
    case h_1 he | h_2 he =>
      rw [(List.cons_eq_cons.mp he).1] at hc
      cases hc
    case h_3 =>
      simp only [htake, hdrop]
      rfl
  · have hbody : s.spansLines = true → rest.head? ≠ some s.quote := by
      intro hspans
      rcases hs with rfl | rfl <;> cases hspans
    have hread := Style.body?_written hw hbody
    rw [h, List.cons_append, List.append_assoc]
    rcases hs with rfl | rfl
    · exact hread
    · exact hread

theorem skipSpaces_keyText (key rest : Text) :
    skipSpaces (keyText key ++ rest) = keyText key ++ rest := by
  obtain ⟨c, u, h, hc⟩ := keyText_eq_cons key
  rw [h]
  exact skipSpaces_cons hc.isSpace_eq

theorem pathText_cons_cons (key next : Text) (path : List Text) :
    pathText (key :: next :: path) = keyText key ++ '.' :: pathText (next :: path) := by
  simp [pathText]

theorem pathText_eq_cons {path : List Text} (h : path ≠ []) :
    ∃ c u, pathText path = c :: u ∧ BeginsKey c := by
  match path, h with
  | [key], _ => simpa [pathText] using keyText_eq_cons key
  | key :: next :: path, _ =>
    obtain ⟨c, u, h, hc⟩ := keyText_eq_cons key
    rw [pathText_cons_cons, h]
    exact ⟨c, _, rfl, hc⟩

/-- A path is read up to what no key can go on with. -/
theorem path?_pathText {path : List Text} {limit : Nat} {rest : Text} (hne : path ≠ [])
    (hlimit : path.length ≤ limit) (hrest : ∀ c ∈ rest.head?, isBare c = false)
    (hdot : (skipSpaces rest).head? ≠ some '.') :
    path? limit (pathText path ++ rest) = some (path, skipSpaces rest) := by
  induction path generalizing limit with
  | nil => exact (hne rfl).elim
  | cons key path ih =>
    obtain ⟨limit, rfl⟩ := Nat.exists_eq_succ_of_ne_zero (show limit ≠ 0 by
      rintro rfl
      exact absurd hlimit (Nat.not_succ_le_zero _))
    cases path with
    | nil =>
      have hkey := key?_keyText key hrest
      have htext : pathText [key] = keyText key := by simp [pathText]
      rw [htext, path?, skipSpaces_keyText, hkey]
      simp only [Option.bind_eq_bind, Option.bind_some]
      split
      case h_1 he => exact (hdot (by rw [he]; rfl)).elim
      case h_2 => rfl
    | cons next path =>
      have hkey : key? (keyText key ++ '.' :: (pathText (next :: path) ++ rest)) =
          some (key, '.' :: (pathText (next :: path) ++ rest)) := by
        apply key?_keyText
        intro c hc
        cases hc
        rfl
      have hskip : skipSpaces ('.' :: (pathText (next :: path) ++ rest)) =
          '.' :: (pathText (next :: path) ++ rest) := skipSpaces_cons rfl
      have hlater := ih (List.cons_ne_nil _ _) (Nat.le_of_succ_le_succ hlimit)
      rw [pathText_cons_cons, List.append_assoc, List.cons_append, path?, skipSpaces_keyText, hkey]
      simp only [Option.bind_eq_bind, Option.bind_some, hskip, hlater]
      rfl

/-! Whole numbers. -/

theorem digitValue?_of_isDigit {c : Char} (h : c.isDigit = true) :
    digitValue? 10 c = some (c.toNat - '0'.toNat) := by
  have hbounds : 48 ≤ c.toNat ∧ c.toNat ≤ 57 := Char.isDigit_iff_toNat.mp h
  have hchar : '0' ≤ c ∧ c ≤ '9' := hbounds
  have hlt : c.toNat - 48 < 10 := by omega
  rw [digitValue?, hexValue?, if_pos hchar]
  exact Option.filter_some_pos (by simpa using hlt)

theorem moreDigits?_of_isDigit {ds : Text} (h : ∀ c ∈ ds, c.isDigit = true) (value : Nat) :
    moreDigits? 10 value ds = some (Nat.ofDigitChars 10 ds value) := by
  induction ds generalizing value with
  | nil => rfl
  | cons c ds ih =>
    have hc := h c List.mem_cons_self
    have hunderscore : c ≠ '_' := by
      rintro rfl
      cases hc
    have hlater := ih (fun d hd => h d (List.mem_cons_of_mem c hd))
      (value * 10 + (c.toNat - '0'.toNat))
    rw [moreDigits?, digitValue?_of_isDigit hc]
    · simp only [Option.bind_eq_bind, Option.bind_some, hlater]
      rw [Nat.ofDigitChars_cons, Nat.mul_comm]
    · intro d u hd
      exact (hunderscore hd).elim

theorem digits?_of_isDigit {ds : Text} (hne : ds ≠ []) (h : ∀ c ∈ ds, c.isDigit = true) :
    digits? 10 ds = some (Nat.ofDigitChars 10 ds 0) := by
  obtain ⟨c, u, rfl⟩ := List.exists_cons_of_ne_nil hne
  have hlater := moreDigits?_of_isDigit (fun d hd => h d (List.mem_cons_of_mem c hd))
    (c.toNat - '0'.toNat)
  rw [digits?, digitValue?_of_isDigit (h c List.mem_cons_self)]
  simp only [Option.bind_eq_bind, Option.bind_some, hlater]
  rw [Nat.ofDigitChars_cons, Nat.mul_zero, Nat.zero_add]

theorem isDigit_of_mem_decimal {n : Nat} {c : Char} (h : c ∈ Nat.toDigits 10 n) :
    c.isDigit = true :=
  Nat.isDigit_of_mem_toDigits (by decide) (by decide) h

theorem head?_decimal_ne_zero {n : Nat} (h : 0 < n) : (Nat.toDigits 10 n).head? ≠ some '0' := by
  induction n using Nat.strong_induction_on with
  | _ n ih =>
    by_cases hn : n < 10
    · rw [Nat.toDigits_of_lt_base hn]
      intro hzero
      have hall : ∀ n < 10, n.digitChar = '0' → n = 0 := by decide
      have hn := hall n hn (Option.some.inj hzero)
      omega
    · have hlater := ih (n / 10) (by omega) (by omega)
      obtain ⟨c, u, hcu⟩ := List.exists_cons_of_ne_nil
        (Nat.toDigits_ne_nil (n := n / 10) (b := 10))
      rw [Nat.toDigits_of_base_le (by decide) (by omega)]
      rw [hcu] at hlater ⊢
      exact hlater

theorem natural?_decimal (n : Nat) : natural? (Nat.toDigits 10 n) = some n := by
  by_cases hn : n = 0
  · subst hn
    rfl
  · have hread := digits?_of_isDigit (Nat.toDigits_ne_nil (n := n))
      fun c => isDigit_of_mem_decimal
    rw [Nat.ofDigitChars_ten_toDigits] at hread
    have hhead := head?_decimal_ne_zero (Nat.pos_of_ne_zero hn)
    unfold natural?
    split
    case h_1 hzero | h_2 hzero =>
      rw [hzero] at hhead
      exact (hhead rfl).elim
    case h_3 => exact hread

/-- Without a mark of another base, a number is a natural number after its sign. -/
theorem integer?_of_isDecimal {t : Text} (h : ∀ c ∈ t, c.isDigit = true ∨ c = '-') :
    integer? t = ((natural? (splitSign t).2).map fun n : Nat =>
      if (splitSign t).1 then -(n : Int) else n).filter fits := by
  have hmark : ∀ c u, t = '0' :: c :: u → c ≠ 'x' ∧ c ≠ 'o' ∧ c ≠ 'b' := by
    rintro c u rfl
    rcases h c (by simp) with hc | rfl
    · refine ⟨?_, ?_, ?_⟩ <;> rintro rfl <;> cases hc
    · decide
  unfold integer?
  split
  case h_1 => exact ((hmark _ _ rfl).1 rfl).elim
  case h_2 => exact ((hmark _ _ rfl).2.1 rfl).elim
  case h_3 => exact ((hmark _ _ rfl).2.2 rfl).elim
  case h_4 =>
    obtain ⟨negative, ds⟩ := splitSign t
    cases hd : natural? ds <;> simp [hd]

theorem splitSign_of_isDigit {c : Char} {t : Text} (h : c.isDigit = true) :
    splitSign (c :: t) = (false, c :: t) := by
  unfold splitSign
  split
  case h_1 he | h_2 he =>
    rw [(List.cons_eq_cons.mp he).1] at h
    cases h
  case h_3 => rfl

theorem splitSign_decimal (n : Nat) :
    splitSign (Nat.toDigits 10 n) = (false, Nat.toDigits 10 n) := by
  obtain ⟨c, u, hcu⟩ := List.exists_cons_of_ne_nil (Nat.toDigits_ne_nil (n := n) (b := 10))
  have hc : c.isDigit = true := isDigit_of_mem_decimal (n := n) (by rw [hcu]; simp)
  rw [hcu]
  exact splitSign_of_isDigit hc

theorem integerText_eq (i : Int) :
    (i < 0 ∧ integerText i = '-' :: Nat.toDigits 10 i.natAbs) ∨
      (0 ≤ i ∧ integerText i = Nat.toDigits 10 i.natAbs) := by
  by_cases hi : i < 0
  · exact .inl ⟨hi, if_pos hi⟩
  · exact .inr ⟨by omega, if_neg hi⟩

theorem isDecimal_of_mem_integerText {i : Int} {c : Char} (h : c ∈ integerText i) :
    c.isDigit = true ∨ c = '-' := by
  rcases integerText_eq i with ⟨-, ht⟩ | ⟨-, ht⟩
  · rw [ht] at h
    rcases List.mem_cons.mp h with rfl | h
    · exact .inr rfl
    · exact .inl (isDigit_of_mem_decimal h)
  · rw [ht] at h
    exact .inl (isDigit_of_mem_decimal h)

theorem integerText_ne_nil (i : Int) : integerText i ≠ [] := by
  rcases integerText_eq i with ⟨-, h⟩ | ⟨-, h⟩ <;> rw [h]
  · exact List.cons_ne_nil _ _
  · exact Nat.toDigits_ne_nil

theorem integer?_integerText {i : Int} (h : fits i = true) : integer? (integerText i) = some i := by
  rw [integer?_of_isDecimal fun c => isDecimal_of_mem_integerText]
  rcases integerText_eq i with ⟨hi, ht⟩ | ⟨hi, ht⟩
  · have hvalue : -(i.natAbs : Int) = i := by omega
    rw [ht]
    change Option.filter fits
      (Option.map (fun n : Nat => -(n : Int)) (natural? (Nat.toDigits 10 _))) = _
    rw [natural?_decimal, Option.map_some, hvalue, Option.filter_some_pos h]
  · have hvalue : (i.natAbs : Int) = i := by omega
    rw [ht, splitSign_decimal]
    change Option.filter fits (Option.map (fun n : Nat => (n : Int)) (natural? _)) = _
    rw [natural?_decimal, Option.map_some, hvalue, Option.filter_some_pos h]

/-! Values without quotes. -/

/-- What comes after a value in a list or on a line of its own. -/
def EndsValue (rest : Text) : Prop :=
  ∃ c u, rest = c :: u ∧ (c = '\n' ∨ c = ',' ∨ c = ']')

theorem EndsValue.head?_ne {rest : Text} (h : EndsValue rest) {d : Char} (hline : d ≠ '\n')
    (hcomma : d ≠ ',') (hbracket : d ≠ ']') : rest.head? ≠ some d := by
  obtain ⟨c, u, rfl, hc⟩ := h
  intro hd
  cases hd
  rcases hc with rfl | rfl | rfl
  · exact hline rfl
  · exact hcomma rfl
  · exact hbracket rfl

theorem EndsValue.isTokenChar_eq {rest : Text} (h : EndsValue rest) :
    ∀ c ∈ rest.head?, isTokenChar c = false := by
  obtain ⟨c, u, rfl, hc⟩ := h
  intro d hd
  cases hd
  rcases hc with rfl | rfl | rfl <;> rfl

theorem token?_word {t rest : Text} (ht : ∀ c ∈ t, isTokenChar c = true) (hrest : EndsValue rest) :
    token? (t ++ rest) = (ofToken? t).map (·, rest) := by
  have htake := takeWhile_word ht hrest.isTokenChar_eq
  have hdrop := dropWhile_word ht hrest.isTokenChar_eq
  have hblank : ∀ c more, rest ≠ ' ' :: c :: more := by
    rintro c more rfl
    exact hrest.head?_ne (by decide) (by decide) (by decide) rfl
  unfold token?
  simp only [htake, hdrop]
  split
  case h_1 => exact (hblank _ _ rfl).elim
  case h_2 => rfl

theorem isTokenChar_of_mem_integerText {i : Int} {c : Char} (h : c ∈ integerText i) :
    isTokenChar c = true := by
  rcases isDecimal_of_mem_integerText h with h | rfl
  · simp [isTokenChar, Char.isAlphanum, h]
  · rfl

theorem ofToken?_integerText {i : Int} (h : fits i = true) :
    ofToken? (integerText i) = some (.integer i) := by
  have hletter : ∀ word : Text, 'e' ∈ word → integerText i ≠ word := by
    rintro word hmem rfl
    rcases isDecimal_of_mem_integerText hmem with h | h <;> cases h
  rw [ofToken?, if_neg (hletter _ (by decide)), if_neg (hletter _ (by decide)),
    integer?_integerText h]

theorem ofToken?_boolean (b : Bool) :
    ofToken? (if b then "true" else "false").toList = some (.boolean b) := by
  cases b <;> rfl

/-! Values. -/

/-- A value of strings, whole numbers and truth values, in so many levels of lists at most. -/
inductive Value.Plain : Nat → Value → Prop where
  | string {depth : Nat} {t : Text} : Plain depth (.string t)
  | integer {depth : Nat} {i : Int} (h : fits i = true) : Plain depth (.integer i)
  | boolean {depth : Nat} {b : Bool} : Plain depth (.boolean b)
  | array {depth : Nat} {vs : List Value} (h : ∀ v ∈ vs, Plain depth v) :
    Plain (depth + 1) (.array false vs)

def BeginsValue (c : Char) : Prop :=
  c = '"' ∨ c = '\'' ∨ c = '[' ∨ isTokenChar c = true

instance : DecidablePred BeginsValue := fun c =>
  inferInstanceAs (Decidable (c = '"' ∨ c = '\'' ∨ c = '[' ∨ isTokenChar c = true))

theorem BeginsValue.ne {c d : Char} (h : BeginsValue c) (hd : ¬BeginsValue d) : c ≠ d := by
  rintro rfl
  exact hd h

theorem BeginsValue.isSpace_eq {c : Char} (h : BeginsValue c) : isSpace c = false := by
  have hblank : c ≠ ' ' := h.ne (by decide)
  have htab : c ≠ '\t' := h.ne (by decide)
  simp [isSpace, hblank, htab]

theorem quoted_eq_cons (t : Text) : ∃ c u, quoted t = c :: u ∧ (c = '"' ∨ c = '\'') := by
  obtain ⟨v, hv⟩ := Style.delimiter_eq_cons (Style.ofText t)
  rw [quoted, Style.write, hv]
  exact ⟨_, _, rfl, Style.quote_eq_or _⟩

theorem valueText_eq_cons {depth : Nat} {v : Value} (hv : v.Plain depth) :
    ∃ c u, valueText v = c :: u ∧ BeginsValue c := by
  cases hv with
  | @string _ t =>
    obtain ⟨c, u, h, hc⟩ := quoted_eq_cons t
    rw [valueText]
    exact ⟨c, u, h, hc.imp_right .inl⟩
  | @integer _ i =>
    obtain ⟨c, u, h⟩ := List.exists_cons_of_ne_nil (integerText_ne_nil i)
    have hc : isTokenChar c = true := isTokenChar_of_mem_integerText (i := i) (by rw [h]; simp)
    rw [valueText]
    exact ⟨c, u, h, .inr (.inr (.inr hc))⟩
  | @boolean _ b =>
    rw [valueText]
    cases b
    · exact ⟨'f', _, rfl, .inr (.inr (.inr rfl))⟩
    · exact ⟨'t', _, rfl, .inr (.inr (.inr rfl))⟩
  | @array _ vs =>
    rw [valueText]
    unfold listText
    split <;> exact ⟨'[', _, rfl, .inr (.inr (.inl rfl))⟩

theorem skipLines_cons {c : Char} {t : Text} (h : isSpace c = false) (hline : c ≠ '\n')
    (hreturn : c ≠ '\r') (hmark : c ≠ '#') : skipLines false (c :: t) = c :: t := by
  have hc : ¬(isSpace c || false && isPlain c) = true := by simp [h]
  rw [skipLines, if_neg hc, if_neg hmark]
  · exact hline
  · intro u hu
    exact (hreturn hu).elim

theorem skipLines_valueText {depth : Nat} {v : Value} (hv : v.Plain depth) (rest : Text) :
    skipLines false (valueText v ++ rest) = valueText v ++ rest := by
  obtain ⟨c, u, h, hc⟩ := valueText_eq_cons hv
  rw [h]
  exact skipLines_cons hc.isSpace_eq (hc.ne (by decide)) (hc.ne (by decide)) (hc.ne (by decide))

/-! Lists. -/

theorem valueTexts_eq_map (vs : List Value) : valueTexts vs = vs.map valueText := by
  induction vs with
  | nil => rfl
  | cons v vs ih => rw [valueTexts, ih, List.map_cons]

section

variable {read : Text → Option (Value × Text)} {depth : Nat} {v : Value} {vs : List Value}
  {rest : Text}

theorem elements?_end (n : Nat) : elements? read (n + 1) (']' :: rest) = some ([], rest) := rfl

/-- The last element has the closing bracket after it, and any other a comma. -/
theorem elements?_last (n : Nat) (hv : v.Plain depth)
    (hread : read (valueText v ++ ']' :: rest) = some (v, ']' :: rest)) :
    elements? read (n + 1) (valueText v ++ ']' :: rest) = some ([v], rest) := by
  obtain ⟨c, u, h, hc⟩ := valueText_eq_cons hv
  have hskip := skipLines_valueText hv (']' :: rest)
  have hbracket : c ≠ ']' := hc.ne (by decide)
  rw [elements?, hskip]
  rw [h] at hread ⊢
  split
  case h_1 he => exact (hbracket (List.cons_eq_cons.mp he).1).elim
  case h_2 =>
    rw [hread]
    rfl

theorem elements?_more (n : Nat) (hv : v.Plain depth)
    (hread : read (valueText v ++ ',' :: rest) = some (v, ',' :: rest)) :
    elements? read (n + 1) ('\n' :: (indent ++ (valueText v ++ ',' :: rest))) =
      (elements? read n rest).map fun r => (v :: r.1, r.2) := by
  obtain ⟨c, u, h, hc⟩ := valueText_eq_cons hv
  have hskip : skipLines false ('\n' :: (indent ++ (valueText v ++ ',' :: rest))) =
      valueText v ++ ',' :: rest := skipLines_valueText hv (',' :: rest)
  have hbracket : c ≠ ']' := hc.ne (by decide)
  rw [elements?, hskip]
  rw [h] at hread ⊢
  split
  case h_1 he => exact (hbracket (List.cons_eq_cons.mp he).1).elim
  case h_2 =>
    rw [hread]
    change (elements? read n rest >>= fun r => pure (v :: r.1, r.2)) = _
    cases elements? read n rest <;> rfl

/-- A list with a line for each element, from the end of the first line on. -/
theorem elements?_lines (hvs : ∀ v ∈ vs, v.Plain depth)
    (hread : ∀ v ∈ vs, ∀ rest, EndsValue rest → read (valueText v ++ rest) = some (v, rest))
    {n : Nat} (hn : vs.length < n) (rest : Text) :
    elements? read n ('\n' :: ((vs.map valueText).flatMap (fun v => indent ++ v ++ [',', '\n']) ++
      ']' :: rest)) = some (vs, rest) := by
  induction vs generalizing n with
  | nil =>
    obtain ⟨n, rfl⟩ := Nat.exists_eq_succ_of_ne_zero (Nat.ne_of_gt hn)
    rfl
  | cons v vs ih =>
    obtain ⟨n, rfl⟩ := Nat.exists_eq_succ_of_ne_zero (Nat.ne_of_gt (Nat.zero_lt_of_lt hn))
    have hlater := ih (fun w hw => hvs w (List.mem_cons_of_mem v hw))
      (fun w hw => hread w (List.mem_cons_of_mem v hw)) (Nat.lt_of_succ_lt_succ hn)
    have hown := hread v List.mem_cons_self
      (',' :: '\n' :: ((vs.map valueText).flatMap (fun v => indent ++ v ++ [',', '\n']) ++
        ']' :: rest)) ⟨_, _, rfl, .inr (.inl rfl)⟩
    have hmore := elements?_more n (hvs v List.mem_cons_self) hown
    rw [hlater] at hmore
    simpa using hmore

end

theorem value?_token {depth : Nat} {c : Char} (hc : isTokenChar c = true) (t : Text) :
    value? depth (c :: t) = token? (c :: t) := by
  have hne : ∀ d, isTokenChar d = false → c ≠ d := by
    rintro d hd rfl
    simp [hd] at hc
  unfold value?
  split
  case h_7 => rfl
  -- No word begins with a quote, a bracket or a brace.
  case h_1 he | h_2 he | h_3 he | h_4 he | h_5 he | h_6 he =>
    exact (hne _ rfl (List.cons_eq_cons.mp he).1).elim

theorem value?_word {depth : Nat} {t rest : Text} (hne : t ≠ [])
    (ht : ∀ c ∈ t, isTokenChar c = true) (hrest : EndsValue rest) :
    value? depth (t ++ rest) = (ofToken? t).map (·, rest) := by
  have hword := token?_word ht hrest
  obtain ⟨c, u, rfl⟩ := List.exists_cons_of_ne_nil hne
  exact (value?_token (ht c List.mem_cons_self) (u ++ rest)).trans hword

theorem value?_bracket (depth : Nat) (t : Text) :
    value? (depth + 1) ('[' :: t) =
      (elements? (value? depth) (t.length + 1) t).map fun r => (.array false r.1, r.2) := by
  change (elements? (value? depth) (t.length + 1) t >>= fun r =>
    pure (Value.array false r.1, r.2)) = _
  cases elements? (value? depth) (t.length + 1) t <;> rfl

theorem length_lt_lines (vs : List Value) (rest : Text) :
    vs.length < ('\n' :: ((vs.map valueText).flatMap (fun v => indent ++ v ++ [',', '\n']) ++
      ']' :: rest)).length + 1 := by
  induction vs with
  | nil => simp
  | cons v vs ih =>
    simp only [List.map_cons, List.flatMap_cons, List.length_append, List.length_cons] at ih ⊢
    omega

/-- Any value of strings, numbers and truth values, in lists or not, is found again. -/
theorem value?_valueText {depth : Nat} {v : Value} (hv : v.Plain depth) {rest : Text}
    (hrest : EndsValue rest) : value? depth (valueText v ++ rest) = some (v, rest) := by
  induction hv generalizing rest with
  | @string depth t =>
    have hread := string?_quoted (t := t) (hrest.head?_ne (by decide) (by decide) (by decide))
      (hrest.head?_ne (by decide) (by decide) (by decide))
    obtain ⟨c, u, h, hc⟩ := quoted_eq_cons t
    rw [valueText]
    rw [h] at hread ⊢
    rcases hc with rfl | rfl
    · cases depth <;> exact congrArg (Option.map _) hread
    · cases depth <;> exact congrArg (Option.map _) hread
  | @integer depth i hi =>
    rw [valueText, value?_word (integerText_ne_nil i) (fun c => isTokenChar_of_mem_integerText)
      hrest, ofToken?_integerText hi]
    rfl
  | @boolean depth b =>
    have hne : (if b then "true" else "false").toList ≠ [] := by cases b <;> simp
    have hword : (if b then "true" else "false").toList.all isTokenChar = true := by
      cases b <;> rfl
    rw [valueText, value?_word hne (List.all_eq_true.mp hword) hrest, ofToken?_boolean]
    rfl
  | @array depth vs hvs ih =>
    have hread : ∀ t, elements? (value? depth) (t.length + 1) t = some (vs, rest) →
        value? (depth + 1) ('[' :: t) = some (.array false vs, rest) := by
      intro t ht
      rw [value?_bracket, ht]
      rfl
    rw [valueText, valueTexts_eq_map]
    match vs, hvs, ih with
    | [], _, _ => exact hread _ (elements?_end _)
    | [v], hvs, ih =>
      have hv := hvs v List.mem_cons_self
      have hend : EndsValue (']' :: rest) := ⟨_, _, rfl, .inr (.inr rfl)⟩
      have hown := ih v List.mem_cons_self hend
      have hlast := elements?_last (valueText v ++ ']' :: rest).length hv hown
      simpa [listText] using hread _ hlast
    | v :: w :: vs, hvs, ih =>
      have hlines := elements?_lines hvs (fun v hv rest => ih v hv) (n := (_ : Text).length + 1)
        (length_lt_lines _ rest) rest
      simpa [listText] using hread _ hlines

end CommentTags.Toml
