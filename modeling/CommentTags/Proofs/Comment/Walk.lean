import CommentTags.Proofs.Text

/-!
Comments by a walk over each line, from left to right and one character at a time. The locator,
which looks for each marker on its own, finds the same comments.
-/
namespace CommentTags.Markers

/-- A walk inside a block: the characters before the closing marker, and whether it came. -/
def walkBody (closing : Text) : Text → Text × Bool
  | [] => ([], closing.isPrefixOf [])
  | c :: rest =>
    if closing.isPrefixOf (c :: rest) then ([], true)
    else
      let (inside, isClosed) := walkBody closing rest
      (c :: inside, isClosed)

/-- The comment that goes on from a byte of the line up to the closing marker, or else to the
end of the line. -/
def walkBlock (closing : Text) (offset : Nat) (body : Text) : Comment × BlockState :=
  let (inside, isClosed) := walkBody closing body
  (⟨inside, offset⟩, if isClosed then .outside else ⟨some closing⟩)

/-- The comment after a line marker, if one stands just here. -/
def lineHere? (m : Markers) (offset : Nat) (rest : Text) : Option (Comment × BlockState) :=
  m.line.bind fun marker =>
    if marker.isPrefixOf rest then
      some (⟨rest.drop marker.length, offset + marker.bytes⟩, .outside)
    else Option.none

/-- The comment in a block, if its opening stands just here. -/
def blockHere? (m : Markers) (offset : Nat) (rest : Text) : Option (Comment × BlockState) :=
  m.block.bind fun block =>
    if block.opening.isPrefixOf rest then
      some (walkBlock block.closing (offset + block.opening.bytes)
        (rest.drop block.opening.length))
    else Option.none

def beginHere? (m : Markers) (offset : Nat) (rest : Text) : Option (Comment × BlockState) :=
  (m.lineHere? offset rest).or (m.blockHere? offset rest)

/-- A walk outside of blocks, up to the first place where a comment begins. -/
def walkCode (m : Markers) (offset : Nat) : Text → Option Comment × BlockState
  | [] =>
    match m.beginHere? offset [] with
    | some (comment, state) => (some comment, state)
    | Option.none => (Option.none, .outside)
  | c :: rest =>
    match m.beginHere? offset (c :: rest) with
    | some (comment, state) => (some comment, state)
    | Option.none => walkCode m (offset + c.utf8Size) rest

def walk (m : Markers) (state : BlockState) (line : Text) : Option Comment × BlockState :=
  match state.pending with
  | some closing =>
    let (comment, state) := walkBlock closing 0 line
    (some comment, state)
  | Option.none => m.walkCode 0 line

/-- Each of the lines is walked once, in the state that the line before it leaves. -/
def walkAll (m : Markers) : BlockState → List Text → List (Option Comment × BlockState)
  | _, [] => []
  | state, line :: rest =>
    let found := m.walk state line
    found :: m.walkAll found.2 rest

/-- The same comment on a line with so many more bytes before it. -/
def shift (n : Nat) (found : Option Comment × BlockState) : Option Comment × BlockState :=
  (found.1.map fun c => ⟨c.text, n + c.offset⟩, found.2)

variable (m : Markers)

theorem walkBody_eq (closing body : Text) :
    walkBody closing body =
      match body.cut? closing with
      | some (inside, _) => (inside, true)
      | Option.none => (body, false) := by
  induction body with
  | nil =>
    cases closing with
    | nil => rfl
    | cons c closing => rfl
  | cons c rest ih =>
    by_cases hp : closing <+: c :: rest
    · rw [Text.cut?_of_prefix hp, walkBody, if_pos (List.isPrefixOf_iff_prefix.mpr hp)]
    · have hb : ¬closing.isPrefixOf (c :: rest) = true := mt List.isPrefixOf_iff_prefix.mp hp
      rw [Text.cut?_cons_of_not_prefix hp, walkBody, if_neg hb, ih]
      cases Text.cut? rest closing with
      | none => rfl
      | some s => rfl

theorem locateBody_eq (before body closing : Text) :
    locateBody before body closing = walkBlock closing before.bytes body := by
  rw [locateBody, walkBlock, walkBody_eq]
  cases body.cut? closing with
  | none => rfl
  | some s => rfl

/-- The first occurrences of the two opening markers, each with what stands around it. -/
def lineCut? (line : Text) : Option (Text × Text × Text) :=
  m.line.bind fun marker => (line.cut? marker).map fun s => (marker, s)

def blockCut? (line : Text) : Option (BlockMarkers × Text × Text) :=
  m.block.bind fun block => (line.cut? block.opening).map fun s => (block, s)

/-- The comment that begins at the earlier of two occurrences. -/
def earlier (lineCut : Option (Text × Text × Text))
    (blockCut : Option (BlockMarkers × Text × Text)) : Option Comment × BlockState :=
  match blockCut with
  | some (block, before, after) =>
    if lineCut.all fun s => before.length < s.2.1.length then
      let (comment, state) := walkBlock block.closing (before ++ block.opening).bytes after
      (some comment, state)
    else (lineCut.map fun s => ⟨s.2.2, (s.2.1 ++ s.1).bytes⟩, .outside)
  | Option.none => (lineCut.map fun s => ⟨s.2.2, (s.2.1 ++ s.1).bytes⟩, .outside)

theorem locateOpening_eq (line : Text) :
    m.locateOpening line = earlier (m.lineCut? line) (m.blockCut? line) := by
  simp only [locateOpening, locateBody_eq]
  rfl

/-- An occurrence with one more character before it. -/
def pushed {α : Type} (c : Char) (s : α × Text × Text) : α × Text × Text :=
  (s.1, c :: s.2.1, s.2.2)

theorem earlier_pushed (c : Char) (lineCut : Option (Text × Text × Text))
    (blockCut : Option (BlockMarkers × Text × Text)) :
    earlier (lineCut.map (pushed c)) (blockCut.map (pushed c)) =
      shift c.utf8Size (earlier lineCut blockCut) := by
  have hline : (lineCut.map (pushed c)).map (fun s => (⟨s.2.2, (s.2.1 ++ s.1).bytes⟩ : Comment)) =
      (lineCut.map fun s => (⟨s.2.2, (s.2.1 ++ s.1).bytes⟩ : Comment)).map
        fun s => ⟨s.text, c.utf8Size + s.offset⟩ := by
    cases lineCut <;> rfl
  cases blockCut with
  | none => simp only [Option.map_none, earlier, hline, shift]
  | some b =>
    have hall : ((lineCut.map (pushed c)).all fun s =>
          (pushed c b).2.1.length < s.2.1.length) =
        lineCut.all fun s => b.2.1.length < s.2.1.length := by
      cases lineCut <;> simp [pushed]
    simp only [Option.map_some, earlier, hall, hline]
    split <;> rfl

theorem lineCut?_cons {c : Char} {rest : Text}
    (h : ∀ marker, m.line = some marker → ¬marker <+: c :: rest) :
    m.lineCut? (c :: rest) = (m.lineCut? rest).map (pushed c) := by
  rw [lineCut?, lineCut?]
  cases hm : m.line with
  | none => rfl
  | some marker =>
    simp only [Option.bind_some, Text.cut?_cons_of_not_prefix (h marker hm), Option.map_map]
    rfl

theorem blockCut?_cons {c : Char} {rest : Text}
    (h : ∀ block, m.block = some block → ¬block.opening <+: c :: rest) :
    m.blockCut? (c :: rest) = (m.blockCut? rest).map (pushed c) := by
  rw [blockCut?, blockCut?]
  cases hm : m.block with
  | none => rfl
  | some block =>
    simp only [Option.bind_some, Text.cut?_cons_of_not_prefix (h block hm), Option.map_map]
    rfl

theorem eq_append_of_lineCut? {line marker before after : Text}
    (h : m.lineCut? line = some (marker, before, after)) :
    m.line = some marker ∧ line = before ++ marker ++ after := by
  obtain ⟨found, hm, hs⟩ := Option.bind_eq_some_iff.mp h
  obtain ⟨s, hcut, he⟩ := Option.map_eq_some_iff.mp hs
  cases he
  exact ⟨hm, Text.eq_append_of_cut? hcut⟩

theorem eq_append_of_blockCut? {line before after : Text} {block : BlockMarkers}
    (h : m.blockCut? line = some (block, before, after)) :
    m.block = some block ∧ line = before ++ block.opening ++ after := by
  obtain ⟨found, hm, hs⟩ := Option.bind_eq_some_iff.mp h
  obtain ⟨s, hcut, he⟩ := Option.map_eq_some_iff.mp hs
  cases he
  exact ⟨hm, Text.eq_append_of_cut? hcut⟩

theorem lineHere?_eq_none_iff {offset : Nat} {rest : Text} :
    m.lineHere? offset rest = Option.none ↔ ∀ marker, m.line = some marker → ¬marker <+: rest := by
  simp [lineHere?, Option.bind_eq_none_iff]

theorem blockHere?_eq_none_iff {offset : Nat} {rest : Text} :
    m.blockHere? offset rest = Option.none ↔
      ∀ block, m.block = some block → ¬block.opening <+: rest := by
  simp [blockHere?, Option.bind_eq_none_iff]

theorem earlier_of_lineHere? {offset : Nat} {rest : Text} {found : Comment × BlockState}
    (h : m.lineHere? offset rest = some found) (blockCut : Option (BlockMarkers × Text × Text)) :
    shift offset (earlier (m.lineCut? rest) blockCut) = (some found.1, found.2) := by
  obtain ⟨marker, hm, hs⟩ := Option.bind_eq_some_iff.mp h
  split at hs
  case isFalse => cases hs
  case isTrue hp =>
    cases hs
    have hcut : m.lineCut? rest = some (marker, [], rest.drop marker.length) := by
      rw [lineCut?, hm, Option.bind_some, Text.cut?_of_prefix (List.isPrefixOf_iff_prefix.mp hp)]
      rfl
    rw [hcut]
    cases blockCut with
    | none => rfl
    | some b => rfl

theorem earlier_of_blockHere? {offset : Nat} {rest : Text} {found : Comment × BlockState}
    (hl : ∀ marker, m.line = some marker → ¬marker <+: rest)
    (h : m.blockHere? offset rest = some found) :
    shift offset (earlier (m.lineCut? rest) (m.blockCut? rest)) = (some found.1, found.2) := by
  obtain ⟨block, hm, hs⟩ := Option.bind_eq_some_iff.mp h
  split at hs
  case isFalse => cases hs
  case isTrue hp =>
    cases hs
    have hcut : m.blockCut? rest = some (block, [], rest.drop block.opening.length) := by
      rw [blockCut?, hm, Option.bind_some,
        Text.cut?_of_prefix (List.isPrefixOf_iff_prefix.mp hp)]
      rfl
    -- The line marker does not stand here, so where it first stands something is before it.
    have hlater : ((m.lineCut? rest).all fun s => ([] : Text).length < s.2.1.length) = true := by
      cases hcut : m.lineCut? rest with
      | none => rfl
      | some s =>
        obtain ⟨marker, before, after⟩ := s
        obtain ⟨hmarker, hrest⟩ := m.eq_append_of_lineCut? hcut
        cases before with
        | nil => exact (hl marker hmarker ⟨after, hrest.symm⟩).elim
        | cons c before => simp
    rw [hcut, earlier, if_pos hlater]
    rfl

/-- Where a comment begins just here, the locator finds it. -/
theorem locateOpening_of_beginHere? {offset : Nat} {rest : Text} {found : Comment × BlockState}
    (h : m.beginHere? offset rest = some found) :
    shift offset (m.locateOpening rest) = (some found.1, found.2) := by
  rw [locateOpening_eq]
  cases hl : m.lineHere? offset rest with
  | some other =>
    rw [beginHere?, hl, Option.some_or] at h
    cases h
    exact m.earlier_of_lineHere? hl _
  | none =>
    rw [beginHere?, hl, Option.none_or] at h
    exact m.earlier_of_blockHere? (m.lineHere?_eq_none_iff.mp hl) h

/-- Where none does, the locator finds what it would find one character further. -/
theorem locateOpening_cons {offset : Nat} {c : Char} {rest : Text}
    (h : m.beginHere? offset (c :: rest) = Option.none) :
    m.locateOpening (c :: rest) = shift c.utf8Size (m.locateOpening rest) := by
  obtain ⟨hl, hb⟩ := Option.or_eq_none_iff.mp h
  rw [locateOpening_eq, locateOpening_eq, lineCut?_cons m (m.lineHere?_eq_none_iff.mp hl),
    blockCut?_cons m (m.blockHere?_eq_none_iff.mp hb), earlier_pushed]

theorem locateOpening_nil {offset : Nat} (h : m.beginHere? offset [] = Option.none) :
    m.locateOpening [] = (Option.none, .outside) := by
  obtain ⟨hl, hb⟩ := Option.or_eq_none_iff.mp h
  have hline : m.lineCut? [] = Option.none := by
    rw [Option.eq_none_iff_forall_ne_some]
    rintro ⟨marker, before, after⟩ hcut
    obtain ⟨hm, he⟩ := m.eq_append_of_lineCut? hcut
    obtain ⟨rfl, rfl⟩ := List.append_eq_nil_iff.mp (List.append_eq_nil_iff.mp he.symm).1
    exact m.lineHere?_eq_none_iff.mp hl [] hm List.nil_prefix
  have hblock : m.blockCut? [] = Option.none := by
    rw [Option.eq_none_iff_forall_ne_some]
    rintro ⟨block, before, after⟩ hcut
    obtain ⟨hm, he⟩ := m.eq_append_of_blockCut? hcut
    have ho : block.opening = [] :=
      (List.append_eq_nil_iff.mp (List.append_eq_nil_iff.mp he.symm).1).2
    exact m.blockHere?_eq_none_iff.mp hb block hm (ho ▸ List.nil_prefix)
  rw [locateOpening_eq, hline, hblock]
  rfl

theorem shift_shift (n k : Nat) (found : Option Comment × BlockState) :
    shift n (shift k found) = shift (n + k) found := by
  simp [shift, Function.comp_def, Nat.add_assoc]

theorem walkCode_eq (offset : Nat) (rest : Text) :
    m.walkCode offset rest = shift offset (m.locateOpening rest) := by
  induction rest generalizing offset with
  | nil =>
    rw [walkCode]
    cases hb : m.beginHere? offset [] with
    | some found => exact (m.locateOpening_of_beginHere? hb).symm
    | none =>
      rw [m.locateOpening_nil hb]
      rfl
  | cons c rest ih =>
    rw [walkCode]
    cases hb : m.beginHere? offset (c :: rest) with
    | some found => exact (m.locateOpening_of_beginHere? hb).symm
    | none => rw [m.locateOpening_cons hb, shift_shift, ih]

theorem walk_eq (state : BlockState) (line : Text) : m.walk state line = m.locate state line := by
  rw [walk, locate]
  cases state.pending with
  | some closing =>
    simp only [locateBody_eq]
    rfl
  | none =>
    rw [walkCode_eq]
    simp [shift]

theorem walkBody_prefix (closing body : Text) : (walkBody closing body).1 <+: body := by
  induction body with
  | nil => exact List.prefix_rfl
  | cons c rest ih =>
    rw [walkBody]
    split
    · exact List.nil_prefix
    · exact List.cons_prefix_cons.mpr ⟨rfl, ih⟩

theorem walkBlock_liesOn {closing before body after : Text} :
    (walkBlock closing before.bytes body).1.liesOn (before ++ body ++ after) = true := by
  obtain ⟨more, hmore⟩ := walkBody_prefix closing body
  rw [Comment.liesOn_iff]
  refine ⟨before, more ++ after, ?_, rfl⟩
  calc before ++ body ++ after
      = before ++ ((walkBody closing body).1 ++ more) ++ after := by rw [hmore]
    _ = before ++ (walkBody closing body).1 ++ (more ++ after) := by simp

theorem beginHere?_liesOn {before rest : Text} {found : Comment × BlockState}
    (h : m.beginHere? before.bytes rest = some found) :
    found.1.liesOn (before ++ rest) = true := by
  rcases Option.or_eq_some_iff.mp h with h | ⟨-, h⟩
  · obtain ⟨marker, -, hs⟩ := Option.bind_eq_some_iff.mp h
    split at hs
    case isFalse => cases hs
    case isTrue hp =>
      cases hs
      obtain ⟨after, rfl⟩ := List.isPrefixOf_iff_prefix.mp hp
      rw [Comment.liesOn_iff]
      exact ⟨before ++ marker, [], by simp, Text.bytes_append before marker⟩
  · obtain ⟨block, -, hs⟩ := Option.bind_eq_some_iff.mp h
    split at hs
    case isFalse => cases hs
    case isTrue hp =>
      cases hs
      obtain ⟨body, rfl⟩ := List.isPrefixOf_iff_prefix.mp hp
      rw [← Text.bytes_append, List.drop_left, ← List.append_assoc,
        ← List.append_nil (before ++ block.opening ++ body)]
      exact walkBlock_liesOn

theorem walkCode_liesOn {before rest : Text} {c : Comment}
    (h : (m.walkCode before.bytes rest).1 = some c) : c.liesOn (before ++ rest) = true := by
  induction rest generalizing before with
  | nil =>
    rw [walkCode] at h
    cases hb : m.beginHere? before.bytes [] with
    | none => simp [hb] at h
    | some found =>
      simp only [hb, Option.some.injEq] at h
      exact h ▸ m.beginHere?_liesOn hb
  | cons d rest ih =>
    rw [walkCode] at h
    cases hb : m.beginHere? before.bytes (d :: rest) with
    | some found =>
      simp only [hb, Option.some.injEq] at h
      exact h ▸ m.beginHere?_liesOn hb
    | none =>
      simp only [hb] at h
      have hd : before.bytes + d.utf8Size = (before ++ [d]).bytes := by
        simp [Text.bytes_append, Text.bytes]
      have hline : before ++ d :: rest = before ++ [d] ++ rest := by simp
      rw [hline]
      exact ih (hd ▸ h)

theorem locate_liesOn {state : BlockState} {line : Text} {c : Comment}
    (h : (m.locate state line).1 = some c) : c.liesOn line = true := by
  rw [← walk_eq, walk] at h
  cases hp : state.pending with
  | none =>
    rw [hp] at h
    rw [← List.nil_append line]
    exact m.walkCode_liesOn h
  | some closing =>
    rw [hp] at h
    cases h
    have hc : (walkBlock closing (Text.bytes []) line).1.liesOn ([] ++ line ++ []) = true :=
      walkBlock_liesOn
    rwa [List.nil_append, List.append_nil] at hc

theorem locateAll_liesOn {state : BlockState} {lines : List Text} {line : Text}
    {found : Option Comment × BlockState} {c : Comment}
    (h : (line, found) ∈ lines.zip (m.locateAll state lines)) (hc : found.1 = some c) :
    c.liesOn line = true := by
  induction lines generalizing state with
  | nil => cases h
  | cons first rest ih =>
    rw [locateAll, List.zip_cons_cons, List.mem_cons] at h
    rcases h with h | h
    · cases h
      exact m.locate_liesOn hc
    · exact ih h

/-- Over any lines, the locator finds the comments of the walk, and leaves each line in the state
in which the walk leaves it. Each comment is a slice of its line between characters, and its
offset counts the bytes before it. -/
theorem locateAll_eq_walkAll (state : BlockState) (lines : List Text) :
    m.locateAll state lines = m.walkAll state lines ∧
      ∀ line found c, (line, found) ∈ lines.zip (m.locateAll state lines) → found.1 = some c →
        ∃ before after, line = before ++ c.text ++ after ∧
          c.offset = (String.ofList before).utf8ByteSize := by
  constructor
  · induction lines generalizing state with
    | nil => rfl
    | cons line rest ih => rw [locateAll, walkAll, walk_eq, ih]
  · intro line found c h hc
    obtain ⟨before, after, hline, hb⟩ := Comment.liesOn_iff.mp (m.locateAll_liesOn h hc)
    exact ⟨before, after, hline, by rw [← hb, Text.bytes_eq_utf8ByteSize]⟩

end CommentTags.Markers
