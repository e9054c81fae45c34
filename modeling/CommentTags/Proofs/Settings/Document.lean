import CommentTags.Proofs.Keyed
import CommentTags.Proofs.Toml.Fields
import CommentTags.Proofs.Toml.Items
import CommentTags.Settings.Decode
import CommentTags.Settings.Encode

/-!
The document of settings is read as the same settings.
-/
namespace CommentTags

namespace Toml

variable {α : Type} {fs : Fields} {name : String} {read : Value → Option α} {encode : α → Value}

/-! Fields that are read as they were given. -/

/-- The field of a value that may be missing. -/
def field (name : String) (v : Option Value) : Fields := (v.map (name.toList, ·)).toList

theorem get?_append (fs gs : Fields) (key : Text) :
    Fields.get? (fs ++ gs) key = (fs.get? key).or (gs.get? key) :=
  List.lookup_append

theorem get?_field (name : String) (v : Option Value) (key : Text) :
    (field name v).get? key = if key = name.toList then v else none := by
  cases v with
  | none => simp [field, Fields.get?]
  | some v =>
    change List.lookup key [(name.toList, v)] = _
    by_cases hkey : key = name.toList
    · rw [if_pos hkey, hkey, List.lookup_cons_self]
    · rw [if_neg hkey]
      apply List.lookup_eq_none_iff.mpr
      intro p hp
      rw [List.mem_singleton.mp hp]
      exact bne_iff_ne.mpr hkey

theorem keys_field_sublist (name : String) (v : Option Value) :
    ((field name v).map Prod.fst).Sublist [name.toList] := by
  cases v with
  | none => exact List.nil_sublist _
  | some v => exact List.Sublist.refl _

theorem optional_of_get? {a : Option α} (h : fs.get? name.toList = a.map encode)
    (hread : ∀ a, read (encode a) = some a) : optional fs name read = some a := by
  rw [optional, h]
  cases a with
  | none => rfl
  | some a => simp [hread a]

theorem withDefault_of_get? {v : Value} {a : α} (standard : α)
    (h : fs.get? name.toList = some v) (hread : read v = some a) :
    withDefault fs name standard read = some a := by
  simp [withDefault, optional, h, hread]

theorem list_map (hread : ∀ a, read (encode a) = some a) (grows : Bool) (as : List α) :
    Toml.list read (.array grows (as.map encode)) = some as := by
  rw [Toml.list]
  induction as with
  | nil => rfl
  | cons a as ih => simp [hread a, ih]

theorem keyed_map (hread : ∀ a, read (encode a) = some a) (origin : Origin)
    (m : Keyed String α) :
    keyed read (.table origin (m.entries.map fun e => (e.1.toList, encode e.2))) = some m := by
  have hentries : ∀ es : List (String × α),
      (es.map fun e => (e.1.toList, encode e.2)).mapM
        (fun (key, v) => do return (String.ofList key, ← read v)) = some es := by
    intro es
    induction es with
    | nil => rfl
    | cons e es ih =>
      simp only [List.map_cons, List.mapM_cons, ih, hread]
      simp
  rw [keyed, hentries]
  exact congrArg some (Keyed.ofList_entries m)

theorem bool_boolean (b : Bool) : bool (.boolean b) = some b := rfl

theorem natural_integer (n : Nat) : natural (.integer n) = some n := by
  simp [natural]

theorem shortInteger_integer (p : Int32) : shortInteger (.integer p.toInt) = some p := by
  have hbounds : Int32.minValue.toInt ≤ p.toInt ∧ p.toInt ≤ Int32.maxValue.toInt :=
    ⟨p.minValue_le_toInt, p.toInt_le⟩
  rw [shortInteger, if_pos hbounds, Int32.ofInt_toInt]

end Toml

open Toml Toml.Fields

namespace Settings

/-! The tables of the document. -/

def stringValue (s : String) : Value := .string s.toList

def listValue (ss : List String) : Value := .array false (ss.map stringValue)

def tagFields (t : Tag) : Fields :=
  field "name" (some (stringValue t.name)) ++ field "pattern" (t.pattern.map stringValue) ++
    field "color" (t.color.map stringValue) ++
    field "priority" (t.priority.map fun p => .integer p.toInt) ++
    field "icon" (t.icon.map stringValue)

def scanFields (s : ScanSettings) : Fields :=
  [("include".toList, stringValue s.included), ("exclude".toList, listValue s.excluded),
    ("debounce_ms".toList, .integer s.debounceMs), ("max_file_size".toList, .integer s.maxFileSize),
    ("hidden".toList, .boolean s.skipHidden), ("git_ignore".toList, .boolean s.gitIgnore),
    ("follow_links".toList, .boolean s.followLinks)]

def highlightFields (h : HighlightSettings) : Fields :=
  [("default_color".toList, stringValue h.defaultColor),
    ("background_alpha".toList, stringValue h.backgroundAlpha)]

def languageFields (l : LanguageSettings) : Fields :=
  field "line" (l.line.map stringValue) ++ field "block_start" (l.opening.map stringValue) ++
    field "block_end" (l.closing.map stringValue) ++
    field "extensions" (some (listValue l.extensions))

theorem pairItems_append (fs gs : Fields) :
    pairItems (fs ++ gs) = pairItems fs ++ pairItems gs :=
  List.map_append

theorem pairItems_field {α : Type} (name : String) (a : Option α) (encode : α → Value) :
    pairItems (field name (a.map encode)) = (a.map fun a => pair name (encode a)).toList := by
  cases a <;> rfl

theorem tagItems_eq (t : Tag) : tagItems t = blockItems ["tags".toList] true (tagFields t) := by
  simp only [blockItems, tagFields, pairItems_append, pairItems_field]
  rfl

theorem scanItems_eq (s : ScanSettings) :
    scanItems s = blockItems ["scan".toList] false (scanFields s) := rfl

theorem highlightItems_eq (h : HighlightSettings) :
    highlightItems h = blockItems ["highlight".toList] false (highlightFields h) := rfl

theorem languageItems_eq (name : String) (l : LanguageSettings) :
    languageItems name l =
      blockItems ["languages".toList, name.toList] false (languageFields l) := by
  simp only [blockItems, languageFields, pairItems_append, pairItems_field]
  rfl

/-! Each key is given once. -/

theorem nodup_keys_tagFields (t : Tag) : ((tagFields t).map Prod.fst).Nodup := by
  have hsublist := (((((keys_field_sublist "name" (some (stringValue t.name))).append
    (keys_field_sublist "pattern" (t.pattern.map stringValue))).append
    (keys_field_sublist "color" (t.color.map stringValue))).append
    (keys_field_sublist "priority" (t.priority.map fun p => .integer p.toInt))).append
    (keys_field_sublist "icon" (t.icon.map stringValue)))
  simp only [← List.map_append] at hsublist
  exact List.Nodup.sublist hsublist (by decide)

theorem nodup_keys_scanFields (s : ScanSettings) : ((scanFields s).map Prod.fst).Nodup := by
  change List.Nodup (["include", "exclude", "debounce_ms", "max_file_size", "hidden",
    "git_ignore", "follow_links"].map String.toList)
  decide

theorem nodup_keys_highlightFields (h : HighlightSettings) :
    ((highlightFields h).map Prod.fst).Nodup := by
  change List.Nodup (["default_color", "background_alpha"].map String.toList)
  decide

theorem nodup_keys_languageFields (l : LanguageSettings) :
    ((languageFields l).map Prod.fst).Nodup := by
  have hsublist := ((((keys_field_sublist "line" (l.line.map stringValue)).append
    (keys_field_sublist "block_start" (l.opening.map stringValue))).append
    (keys_field_sublist "block_end" (l.closing.map stringValue))).append
    (keys_field_sublist "extensions" (some (listValue l.extensions))))
  simp only [← List.map_append] at hsublist
  exact List.Nodup.sublist hsublist (by decide)

/-! The tables are read as what they were made of. -/

theorem string_stringValue (s : String) : Toml.string (stringValue s) = some s := by
  simp [Toml.string, stringValue]

theorem list_listValue (ss : List String) : Toml.list Toml.string (listValue ss) = some ss :=
  list_map string_stringValue false ss

theorem tag?_tagFields (origin : Origin) (t : Tag) :
    tag? (.table origin (tagFields t)) = some t := by
  have hname : (tagFields t).get? "name".toList = some (stringValue t.name) := by
    simp [tagFields, get?_append, get?_field]
  have hpattern : (tagFields t).get? "pattern".toList = t.pattern.map stringValue := by
    simp [tagFields, get?_append, get?_field]
  have hcolor : (tagFields t).get? "color".toList = t.color.map stringValue := by
    simp [tagFields, get?_append, get?_field]
  have hicon : (tagFields t).get? "icon".toList = t.icon.map stringValue := by
    simp [tagFields, get?_append, get?_field]
  have hpriority : (tagFields t).get? "priority".toList =
      t.priority.map fun p => .integer p.toInt := by
    simp [tagFields, get?_append, get?_field]
  simp only [tag?, record?, Option.bind_eq_bind, Option.bind_some, hname, string_stringValue,
    optional_of_get? hpattern string_stringValue, optional_of_get? hcolor string_stringValue,
    optional_of_get? hicon string_stringValue, optional_of_get? hpriority shortInteger_integer]
  rfl

theorem scan?_scanFields (origin : Origin) (s : ScanSettings) :
    scan? (.table origin (scanFields s)) = some s := by
  have hincluded : (scanFields s).get? "include".toList = some (stringValue s.included) := rfl
  have hexcluded : (scanFields s).get? "exclude".toList = some (listValue s.excluded) := rfl
  have hdebounce : (scanFields s).get? "debounce_ms".toList = some (.integer s.debounceMs) := rfl
  have hsize : (scanFields s).get? "max_file_size".toList = some (.integer s.maxFileSize) := rfl
  have hhidden : (scanFields s).get? "hidden".toList = some (.boolean s.skipHidden) := rfl
  have hignore : (scanFields s).get? "git_ignore".toList = some (.boolean s.gitIgnore) := rfl
  have hlinks : (scanFields s).get? "follow_links".toList = some (.boolean s.followLinks) := rfl
  simp only [scan?, record?, Option.bind_eq_bind, Option.bind_some,
    withDefault_of_get? _ hincluded (string_stringValue s.included),
    withDefault_of_get? _ hexcluded (list_listValue s.excluded),
    withDefault_of_get? _ hdebounce (natural_integer s.debounceMs),
    withDefault_of_get? _ hsize (natural_integer s.maxFileSize),
    withDefault_of_get? _ hhidden (bool_boolean s.skipHidden),
    withDefault_of_get? _ hignore (bool_boolean s.gitIgnore),
    withDefault_of_get? _ hlinks (bool_boolean s.followLinks)]
  rfl

theorem highlight?_highlightFields (origin : Origin) (h : HighlightSettings) :
    highlight? (.table origin (highlightFields h)) = some h := by
  have hcolor : (highlightFields h).get? "default_color".toList =
      some (stringValue h.defaultColor) := rfl
  have halpha : (highlightFields h).get? "background_alpha".toList =
      some (stringValue h.backgroundAlpha) := rfl
  simp only [highlight?, record?, Option.bind_eq_bind, Option.bind_some,
    withDefault_of_get? _ hcolor (string_stringValue h.defaultColor),
    withDefault_of_get? _ halpha (string_stringValue h.backgroundAlpha)]
  rfl

theorem language?_languageFields (origin : Origin) (l : LanguageSettings) :
    language? (.table origin (languageFields l)) = some l := by
  have hline : (languageFields l).get? "line".toList = l.line.map stringValue := by
    simp [languageFields, get?_append, get?_field]
  have hopening : (languageFields l).get? "block_start".toList = l.opening.map stringValue := by
    simp [languageFields, get?_append, get?_field]
  have hclosing : (languageFields l).get? "block_end".toList = l.closing.map stringValue := by
    simp [languageFields, get?_append, get?_field]
  have hextensions : (languageFields l).get? "extensions".toList =
      some (listValue l.extensions) := by
    simp [languageFields, get?_append, get?_field]
  simp only [language?, record?, Option.bind_eq_bind, Option.bind_some,
    optional_of_get? hline string_stringValue, optional_of_get? hopening string_stringValue,
    optional_of_get? hclosing string_stringValue,
    withDefault_of_get? [] hextensions (list_listValue l.extensions)]
  rfl

/-! The whole document. -/

def tagsValue (tags : List Tag) : Value :=
  .array (!tags.isEmpty) (tags.map fun t => .table .headed (tagFields t))

def languagesValue (ls : List (String × LanguageSettings)) : Value :=
  .table (if ls.isEmpty then .headed else .implied)
    (ls.map fun e => (e.1.toList, .table .headed (languageFields e.2)))

/-- The table that the document of the settings describes. -/
def fields (s : Settings) : Fields :=
  [("tags".toList, tagsValue s.tags), ("scan".toList, .table .headed (scanFields s.scan)),
    ("highlight".toList, .table .headed (highlightFields s.highlight)),
    ("languages".toList, languagesValue s.languages.entries)]

theorem foldlM_tagListItems (tags : List Tag) :
    ∃ last, (tagListItems tags).foldlM addItem ([], []) =
      some (last, [("tags".toList, tagsValue tags)]) := by
  rw [tagListItems]
  split
  case isTrue h =>
    have htags : tags = [] := List.isEmpty_iff.mp h
    have hkeys : (List.map Prod.fst [("tags".toList, tagsValue [])]).Nodup :=
      List.nodup_singleton _
    subst htags
    exact ⟨[], foldlM_pairItems [] leads_root hkeys⟩
  case isFalse h =>
    have hne : tags.map tagFields ≠ [] := by simpa using h
    have hkeys : ∀ fs ∈ tags.map tagFields, (fs.map Prod.fst).Nodup := by
      intro fs hfs
      obtain ⟨t, -, rfl⟩ := List.mem_map.mp hfs
      exact nodup_keys_tagFields t
    have hvalue : tagsValue tags = .array true ((tags.map tagFields).map (.table .headed)) := by
      simp [tagsValue, h]
    have hitems : tags.flatMap tagItems =
        (tags.map tagFields).flatMap (blockItems ["tags".toList] true) := by
      rw [List.flatMap_map]
      exact congrArg tags.flatMap (funext tagItems_eq)
    rw [hvalue, hitems]
    exact foldlM_list [] List.not_mem_nil hne hkeys

theorem foldlM_languageListItems {ls : List (String × LanguageSettings)} {before : Fields}
    (given : List Text) (hkey : "languages".toList ∉ before.map Prod.fst)
    (hnames : (ls.map Prod.fst).Nodup) :
    ∃ last, (languageListItems ls).foldlM addItem (given, before) =
      some (last, before ++ [("languages".toList, languagesValue ls)]) := by
  rw [languageListItems]
  split
  case isTrue h =>
    have hls : ls = [] := List.isEmpty_iff.mp h
    have hkeys : (List.map Prod.fst ([] : Fields)).Nodup := List.nodup_nil
    subst hls
    exact ⟨["languages".toList], foldlM_table given hkey hkeys⟩
  case isFalse h =>
    let tables : List (Text × Fields) := ls.map fun e => (e.1.toList, languageFields e.2)
    have hne : tables ≠ [] := by simpa [tables] using h
    have hkeys : ∀ e ∈ tables, (e.2.map Prod.fst).Nodup := by
      intro e he
      obtain ⟨l, -, rfl⟩ := List.mem_map.mp he
      exact nodup_keys_languageFields l.2
    have htexts : (tables.map Prod.fst).Nodup := by
      have hmap : tables.map Prod.fst = (ls.map Prod.fst).map String.toList := by simp [tables]
      rw [hmap]
      exact hnames.map fun a b hab => String.toList_injective hab
    have hvalue : languagesValue ls =
        .table .implied (tables.map fun e => (e.1, .table .headed e.2)) := by
      simp [languagesValue, tables, h]
    have hitems : (ls.flatMap fun e => languageItems e.1 e.2) =
        tables.flatMap fun e => blockItems ["languages".toList, e.1] false e.2 := by
      simp [tables, List.flatMap_map, languageItems_eq]
    rw [hvalue]
    change ∃ last, (ls.flatMap fun e => languageItems e.1 e.2).foldlM addItem (given, before) = _
    rw [hitems]
    exact foldlM_impliedTable given hkey hne htexts hkeys

theorem ofItems?_items (s : Settings) : Fields.ofItems? s.items = some (fields s) := by
  obtain ⟨last, htags⟩ := foldlM_tagListItems s.tags
  have hscan : (scanItems s.scan).foldlM addItem (last, [("tags".toList, tagsValue s.tags)]) =
      some (["scan".toList], [("tags".toList, tagsValue s.tags),
        ("scan".toList, .table .headed (scanFields s.scan))]) :=
    foldlM_table last (by simp) (nodup_keys_scanFields s.scan)
  have hhighlight : (highlightItems s.highlight).foldlM addItem (["scan".toList],
      [("tags".toList, tagsValue s.tags), ("scan".toList, .table .headed (scanFields s.scan))]) =
      some (["highlight".toList], [("tags".toList, tagsValue s.tags),
        ("scan".toList, .table .headed (scanFields s.scan)),
        ("highlight".toList, .table .headed (highlightFields s.highlight))]) :=
    foldlM_table _ (by simp) (nodup_keys_highlightFields s.highlight)
  obtain ⟨last, hlanguages⟩ : ∃ last, (languageListItems s.languages.entries).foldlM addItem
      (["highlight".toList], [("tags".toList, tagsValue s.tags),
        ("scan".toList, .table .headed (scanFields s.scan)),
        ("highlight".toList, .table .headed (highlightFields s.highlight))]) =
      some (last, fields s) :=
    foldlM_languageListItems _ (by simp) s.languages.nodup_keys
  rw [Fields.ofItems?, items, List.foldlM_append, List.foldlM_append, List.foldlM_append, htags]
  simp only [Option.bind_eq_bind, Option.bind_some, hscan, hhighlight, hlanguages]
  rfl

theorem ofFields?_fields (s : Settings) : ofFields? (fields s) = some s := by
  have htags : (fields s).get? "tags".toList = some (tagsValue s.tags) := rfl
  have hscan : (fields s).get? "scan".toList = some (.table .headed (scanFields s.scan)) := rfl
  have hhighlight : (fields s).get? "highlight".toList =
      some (.table .headed (highlightFields s.highlight)) := rfl
  have hlanguages : (fields s).get? "languages".toList =
      some (languagesValue s.languages.entries) := rfl
  have htagList : Toml.list tag? (tagsValue s.tags) = some s.tags :=
    list_map (tag?_tagFields .headed) _ s.tags
  have hkeyed : keyed language? (languagesValue s.languages.entries) = some s.languages :=
    keyed_map (language?_languageFields .headed) _ s.languages
  simp only [ofFields?, Option.bind_eq_bind, Option.bind_some,
    withDefault_of_get? _ htags htagList,
    withDefault_of_get? _ hscan (scan?_scanFields .headed s.scan),
    withDefault_of_get? _ hhighlight (highlight?_highlightFields .headed s.highlight),
    withDefault_of_get? _ hlanguages hkeyed]
  rfl

/-! Every item can be read. -/

/-- All values of the fields are of strings, numbers and truth values. -/
def IsPlain (fs : Fields) : Prop := ∀ p ∈ fs, p.2.Plain maxDepth

theorem IsPlain.append {fs gs : Fields} (hfs : IsPlain fs) (hgs : IsPlain gs) :
    IsPlain (fs ++ gs) := by
  intro p hp
  rcases List.mem_append.mp hp with hp | hp
  · exact hfs p hp
  · exact hgs p hp

theorem isPlain_field {α : Type} {encode : α → Value} (name : String) (a : Option α)
    (h : ∀ a, (encode a).Plain maxDepth) : IsPlain (field name (a.map encode)) := by
  intro p hp
  cases a with
  | none => cases hp
  | some a =>
    rw [List.mem_singleton.mp hp]
    exact h a

theorem plain_stringValue (s : String) : (stringValue s).Plain maxDepth := .string

theorem plain_listValue (ss : List String) : (listValue ss).Plain maxDepth := by
  apply Value.Plain.array
  intro v hv
  obtain ⟨s, -, rfl⟩ := List.mem_map.mp hv
  exact .string

theorem fits_toInt (p : Int32) : fits p.toInt = true := by
  have hleast : (-2147483648 : Int) ≤ p.toInt := p.minValue_le_toInt
  have hmost : p.toInt ≤ 2147483647 := p.toInt_le
  have hlower : Int64.minValue.toInt ≤ p.toInt := by
    have h : Int64.minValue.toInt = -9223372036854775808 := rfl
    omega
  have hupper : p.toInt ≤ Int64.maxValue.toInt := by
    have h : Int64.maxValue.toInt = 9223372036854775807 := rfl
    omega
  rw [fits, decide_eq_true hlower, decide_eq_true hupper]
  rfl

theorem isPlain_tagFields (t : Tag) : IsPlain (tagFields t) :=
  ((((isPlain_field "name" (some t.name) plain_stringValue).append
    (isPlain_field "pattern" t.pattern plain_stringValue)).append
    (isPlain_field "color" t.color plain_stringValue)).append
    (isPlain_field "priority" t.priority fun p => .integer (fits_toInt p))).append
    (isPlain_field "icon" t.icon plain_stringValue)

theorem isPlain_scanFields {s : ScanSettings} (hdebounce : fits s.debounceMs = true)
    (hsize : fits s.maxFileSize = true) : IsPlain (scanFields s) := by
  simp only [IsPlain, scanFields, List.forall_mem_cons]
  exact ⟨.string, plain_listValue _, .integer hdebounce, .integer hsize, .boolean, .boolean,
    .boolean, fun _ hp => by cases hp⟩

theorem isPlain_highlightFields (h : HighlightSettings) : IsPlain (highlightFields h) := by
  simp only [IsPlain, highlightFields, List.forall_mem_cons]
  exact ⟨.string, .string, fun _ hp => by cases hp⟩

theorem isPlain_languageFields (l : LanguageSettings) : IsPlain (languageFields l) :=
  (((isPlain_field "line" l.line plain_stringValue).append
    (isPlain_field "block_start" l.opening plain_stringValue)).append
    (isPlain_field "block_end" l.closing plain_stringValue)).append
    (isPlain_field "extensions" (some l.extensions) plain_listValue)

theorem plain_pairItems {fs : Fields} (hfs : IsPlain fs) : ∀ item ∈ pairItems fs, item.Plain := by
  intro item hitem
  obtain ⟨p, hp, rfl⟩ := List.mem_map.mp hitem
  exact .pair (List.cons_ne_nil _ _) (show 1 ≤ maxDepth by decide) (hfs p hp)

theorem plain_blockItems {path : List Text} {isElement : Bool} {fs : Fields} (hne : path ≠ [])
    (hdepth : path.length ≤ maxDepth) (hfs : IsPlain fs) :
    ∀ item ∈ blockItems path isElement fs, item.Plain := by
  intro item hitem
  rcases List.mem_cons.mp hitem with rfl | hitem
  · exact .header hne hdepth
  · exact plain_pairItems hfs item hitem

theorem plain_tagListItems (tags : List Tag) : ∀ item ∈ tagListItems tags, item.Plain := by
  intro item hitem
  rw [tagListItems] at hitem
  split at hitem
  · rw [List.mem_singleton.mp hitem]
    exact .pair (List.cons_ne_nil _ _) (by decide) (plain_listValue [])
  · obtain ⟨t, -, hitem⟩ := List.mem_flatMap.mp hitem
    rw [tagItems_eq] at hitem
    exact plain_blockItems (List.cons_ne_nil _ _) (by decide) (isPlain_tagFields t) item hitem

theorem plain_languageListItems (ls : List (String × LanguageSettings)) :
    ∀ item ∈ languageListItems ls, item.Plain := by
  intro item hitem
  rw [languageListItems] at hitem
  split at hitem
  · rw [List.mem_singleton.mp hitem]
    exact .header (List.cons_ne_nil _ _) (by decide)
  · obtain ⟨⟨name, l⟩, -, hitem⟩ := List.mem_flatMap.mp hitem
    have hitem : item ∈ languageItems name l := hitem
    have hdepth : ["languages".toList, name.toList].length ≤ maxDepth :=
      show 2 ≤ maxDepth by decide
    rw [languageItems_eq] at hitem
    exact plain_blockItems (List.cons_ne_nil _ _) hdepth (isPlain_languageFields l) item hitem

theorem plain_items {s : Settings} (h : s.isWritable = true) : ∀ item ∈ s.items, item.Plain := by
  obtain ⟨hdebounce, hsize⟩ := Bool.and_eq_true_iff.mp h
  intro item hitem
  simp only [items, List.mem_append] at hitem
  rcases hitem with ((hitem | hitem) | hitem) | hitem
  · exact plain_tagListItems s.tags item hitem
  · rw [scanItems_eq] at hitem
    exact plain_blockItems (List.cons_ne_nil _ _) (by decide)
      (isPlain_scanFields hdebounce hsize) item hitem
  · rw [highlightItems_eq] at hitem
    exact plain_blockItems (List.cons_ne_nil _ _) (by decide)
      (isPlain_highlightFields s.highlight) item hitem
  · exact plain_languageListItems s.languages.entries item hitem

/-- Settings are found again from their document. -/
theorem read_write {s : Settings} (h : s.isWritable = true) :
    read (Toml.write s.items) = .ok s := by
  have hitems := readItems?_write (plain_items h)
  rw [read, Toml.read?, hitems, Option.bind_some, ofItems?_items, Option.bind_some,
    ofFields?_fields]

end Settings

end CommentTags
