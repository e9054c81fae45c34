import Mathlib.Data.List.Nodup
import CommentTags.Toml.Value

/-!
The table that a document describes, when each header opens the last table or the last element
of a list and no key is given twice.
-/
namespace CommentTags.Toml.Fields

variable {fs before inner : Fields} {key : Text} {v w : Value}

theorem get?_of_not_mem (h : key ∉ fs.map Prod.fst) : fs.get? key = none := by
  apply List.lookup_eq_none_iff.mpr
  intro p hp
  have hne : key ≠ p.1 := by
    rintro rfl
    exact h (List.mem_map_of_mem hp)
  exact bne_iff_ne.mpr hne

theorem get?_last (h : key ∉ before.map Prod.fst) :
    get? (before ++ [(key, v)]) key = some v := by
  have hnone : before.lookup key = none := get?_of_not_mem h
  rw [get?, List.lookup_append, hnone, List.lookup_cons_self]
  rfl

theorem put_of_not_mem (h : key ∉ fs.map Prod.fst) : fs.put key v = fs ++ [(key, v)] := by
  induction fs with
  | nil => rfl
  | cons p fs ih =>
    obtain ⟨hne, hlater⟩ := List.ne_and_not_mem_of_not_mem_cons h
    have hne : ¬p.1 = key := fun hp => hne hp.symm
    exact (if_neg hne).trans (congrArg (p :: ·) (ih hlater))

theorem put_last (h : key ∉ before.map Prod.fst) :
    put key w (before ++ [(key, v)]) = before ++ [(key, w)] := by
  induction before with
  | nil => exact if_pos rfl
  | cons p before ih =>
    obtain ⟨hne, hlater⟩ := List.ne_and_not_mem_of_not_mem_cons h
    have hne : ¬p.1 = key := fun hp => hne hp.symm
    exact (if_neg hne).trans (congrArg (p :: ·) (ih hlater))

/-- A change at the end of a path is a change at the end of its first part. -/
theorem alter_append (newOrigin : Origin) (f : Origin → Fields → Option Fields)
    (first last : List Text) (origin : Origin) (fs : Fields) :
    alter newOrigin f (first ++ last) origin fs =
      alter newOrigin (alter newOrigin f last) first origin fs := by
  induction first generalizing origin fs with
  | nil => rfl
  | cons key first ih => simp only [List.cons_append, alter, ih]

/-- The path leads from the root to the table `inner` of `around inner`. -/
def Leads (origin : Origin) (path : List Text) (around : Fields → Fields) : Prop :=
  ∀ f inner, alter .implied f path .headed (around inner) = (f origin inner).map around

section

variable {origin : Origin} {path given : List Text} {around : Fields → Fields}

theorem leads_root : Leads .headed [] id := by
  intro f inner
  exact Option.map_id'.symm

theorem Leads.table {newOrigin : Origin} (hl : Leads origin path around)
    (hkey : key ∉ before.map Prod.fst) (hopen : newOrigin ≠ .closed) :
    Leads newOrigin (path ++ [key])
      fun inner => around (before ++ [(key, .table newOrigin inner)]) := by
  intro f inner
  have hclosed : ¬(newOrigin = .closed ∨ Origin.implied = .dotted ∧ newOrigin = .headed) := by
    rintro (h | ⟨h, -⟩)
    · exact hopen h
    · cases h
  rw [alter_append, hl, alter, get?_last hkey]
  simp only [if_neg hclosed, alter, put_last hkey]
  cases f newOrigin inner <;> rfl

theorem Leads.element (hl : Leads origin path around) (elements : List Value)
    (hkey : key ∉ before.map Prod.fst) :
    Leads .headed (path ++ [key])
      fun inner => around (before ++ [(key, .array true (elements ++ [.table .headed inner]))]) := by
  intro f inner
  rw [alter_append, hl, alter, get?_last hkey]
  simp only [List.getLast?_concat, List.dropLast_concat, alter, put_last hkey]
  cases f .headed inner <;> rfl

/-! Pairs. -/

theorem addPair_of_not_mem (h : key ∉ fs.map Prod.fst) :
    fs.addPair [key] v = some (fs ++ [(key, v)]) := by
  have hnone : fs.get? key = none := get?_of_not_mem h
  simp [addPair, alter, hnone, put_of_not_mem h]

/-- The items for the fields of one table. -/
def pairItems (fs : Fields) : List Item := fs.map fun p => .pair [p.1] p.2

theorem addItem_pair (hl : Leads origin path around) (hkey : key ∉ inner.map Prod.fst) :
    addItem (path, around inner) (.pair [key] v) =
      some (path, around (inner ++ [(key, v)])) := by
  have halter := hl (fun _ fs => fs.addPair [key] v) inner
  rw [addPair_of_not_mem hkey] at halter
  rw [addItem, halter]
  rfl

theorem foldlM_pairItems (inner : Fields) (hl : Leads origin path around)
    (hkeys : ((inner ++ fs).map Prod.fst).Nodup) :
    (pairItems fs).foldlM addItem (path, around inner) = some (path, around (inner ++ fs)) := by
  induction fs generalizing inner with
  | nil => simp [pairItems]
  | cons p fs ih =>
    have hsplit : inner ++ p :: fs = (inner ++ [p]) ++ fs := by simp
    have hnew : p.1 ∉ inner.map Prod.fst := by
      rw [List.map_append, List.nodup_append] at hkeys
      intro hmem
      exact hkeys.2.2 p.1 hmem p.1 List.mem_cons_self rfl
    rw [hsplit] at hkeys ⊢
    change List.foldlM addItem (path, around inner) (.pair [p.1] p.2 :: pairItems fs) = _
    rw [List.foldlM_cons, addItem_pair hl hnew]
    exact ih (inner ++ [p]) hkeys

/-! Headers. -/

theorem open?_append (hl : Leads origin path around) (isElement : Bool) :
    open? (path ++ [key]) isElement (around inner) =
      (open? [key] isElement inner).map around := by
  simp only [open?, List.getLast?_concat, List.dropLast_concat]
  rw [hl]
  rfl

theorem open?_table (hkey : key ∉ fs.map Prod.fst) :
    open? [key] false fs = some (fs ++ [(key, .table .headed [])]) := by
  have hnone : fs.get? key = none := get?_of_not_mem hkey
  simp [open?, alter, hnone, put_of_not_mem hkey]

theorem open?_firstElement (hkey : key ∉ fs.map Prod.fst) :
    open? [key] true fs = some (fs ++ [(key, .array true [.table .headed []])]) := by
  have hnone : fs.get? key = none := get?_of_not_mem hkey
  simp [open?, alter, hnone, put_of_not_mem hkey]

theorem open?_element {elements : List Value} (hkey : key ∉ before.map Prod.fst) :
    open? [key] true (before ++ [(key, .array true elements)]) =
      some (before ++ [(key, .array true (elements ++ [.table .headed []]))]) := by
  have hlast := get?_last (v := .array true elements) hkey
  simp [open?, alter, hlast, put_last hkey]

/-- The header of a table in a table that is not there yet. -/
theorem open?_implied {name : Text} (hkey : key ∉ fs.map Prod.fst) :
    open? [key, name] false fs =
      some (fs ++ [(key, .table .implied [(name, .table .headed [])])]) := by
  have hnone : fs.get? key = none := get?_of_not_mem hkey
  have hempty : get? [] name = none := rfl
  simp [open?, alter, hnone, put_of_not_mem hkey, hempty, put]

/-! Headers with the pairs after them. -/

/-- A header and the pairs that belong to it. -/
def blockItems (path : List Text) (isElement : Bool) (fs : Fields) : List Item :=
  .header path isElement :: pairItems fs

theorem foldlM_blockItems {isElement : Bool} {opened : Fields}
    (hopen : open? path isElement opened = some (around [])) (hl : Leads origin path around)
    (hkeys : (fs.map Prod.fst).Nodup) :
    (blockItems path isElement fs).foldlM addItem (given, opened) = some (path, around fs) := by
  have hpairs := foldlM_pairItems [] hl hkeys
  rw [blockItems, List.foldlM_cons, addItem, hopen]
  exact hpairs

/-- A new table at the end of a table. -/
theorem foldlM_tableItems (hl : Leads origin path around) (hkey : key ∉ inner.map Prod.fst)
    (hkeys : (fs.map Prod.fst).Nodup) :
    (blockItems (path ++ [key]) false fs).foldlM addItem (given, around inner) =
      some (path ++ [key], around (inner ++ [(key, .table .headed fs)])) := by
  refine foldlM_blockItems ?_ (hl.table hkey (by decide)) hkeys
  rw [open?_append hl, open?_table hkey]
  rfl

/-- The first element of a list at the end of a table. -/
theorem foldlM_firstElementItems (hl : Leads origin path around)
    (hkey : key ∉ inner.map Prod.fst) (hkeys : (fs.map Prod.fst).Nodup) :
    (blockItems (path ++ [key]) true fs).foldlM addItem (given, around inner) =
      some (path ++ [key], around (inner ++ [(key, .array true [.table .headed fs])])) := by
  refine foldlM_blockItems ?_ (hl.element [] hkey) hkeys
  rw [open?_append hl, open?_firstElement hkey]
  rfl

theorem foldlM_elementItems {elements : List Value} (hl : Leads origin path around)
    (hkey : key ∉ before.map Prod.fst) (hkeys : (fs.map Prod.fst).Nodup) :
    (blockItems (path ++ [key]) true fs).foldlM addItem
        (given, around (before ++ [(key, .array true elements)])) =
      some (path ++ [key],
        around (before ++ [(key, .array true (elements ++ [.table .headed fs]))])) := by
  refine foldlM_blockItems ?_ (hl.element elements hkey) hkeys
  rw [open?_append hl, open?_element hkey]
  rfl

end

/-! Whole sections at the end of the document. -/

theorem foldlM_elements {tables : List Fields} (given : List Text) (elements : List Value)
    (hkey : key ∉ before.map Prod.fst) (hkeys : ∀ fs ∈ tables, (fs.map Prod.fst).Nodup) :
    ∃ last, (tables.flatMap (blockItems [key] true)).foldlM addItem
        (given, before ++ [(key, .array true elements)]) =
      some (last, before ++ [(key, .array true (elements ++ tables.map (.table .headed)))]) := by
  induction tables generalizing given elements with
  | nil =>
    refine ⟨given, ?_⟩
    simp
  | cons fs tables ih =>
    have hown : (blockItems [key] true fs).foldlM addItem
        (given, before ++ [(key, .array true elements)]) = some ([key], _) :=
      foldlM_elementItems leads_root hkey (hkeys fs List.mem_cons_self)
    obtain ⟨last, hlater⟩ := ih [key] (elements ++ [.table .headed fs])
      fun gs hgs => hkeys gs (List.mem_cons_of_mem fs hgs)
    refine ⟨last, ?_⟩
    rw [List.flatMap_cons, List.foldlM_append, hown]
    simpa using hlater

/-- A list of tables, each with a header of its own. -/
theorem foldlM_list {tables : List Fields} (given : List Text) (hkey : key ∉ before.map Prod.fst)
    (hne : tables ≠ []) (hkeys : ∀ fs ∈ tables, (fs.map Prod.fst).Nodup) :
    ∃ last, (tables.flatMap (blockItems [key] true)).foldlM addItem (given, before) =
      some (last, before ++ [(key, .array true (tables.map (.table .headed)))]) := by
  obtain ⟨fs, tables, rfl⟩ := List.exists_cons_of_ne_nil hne
  have hown : (blockItems [key] true fs).foldlM addItem (given, before) = some ([key], _) :=
    foldlM_firstElementItems leads_root hkey (hkeys fs List.mem_cons_self)
  obtain ⟨last, hlater⟩ := foldlM_elements [key] [.table .headed fs] hkey
    fun gs hgs => hkeys gs (List.mem_cons_of_mem fs hgs)
  refine ⟨last, ?_⟩
  rw [List.flatMap_cons, List.foldlM_append, hown]
  exact hlater

theorem foldlM_table (given : List Text) (hkey : key ∉ before.map Prod.fst)
    (hkeys : (fs.map Prod.fst).Nodup) :
    (blockItems [key] false fs).foldlM addItem (given, before) =
      some ([key], before ++ [(key, .table .headed fs)]) :=
  foldlM_tableItems leads_root hkey hkeys

theorem foldlM_innerTables {tables : List (Text × Fields)} (given : List Text) (inner : Fields)
    (hkey : key ∉ before.map Prod.fst)
    (hnames : (inner.map Prod.fst ++ tables.map Prod.fst).Nodup)
    (hkeys : ∀ e ∈ tables, (e.2.map Prod.fst).Nodup) :
    ∃ last, (tables.flatMap fun e => blockItems [key, e.1] false e.2).foldlM addItem
        (given, before ++ [(key, .table .implied inner)]) =
      some (last, before ++ [(key, .table .implied
        (inner ++ tables.map fun e => (e.1, .table .headed e.2)))]) := by
  induction tables generalizing given inner with
  | nil =>
    refine ⟨given, ?_⟩
    simp
  | cons e tables ih =>
    have hname : e.1 ∉ inner.map Prod.fst := by
      intro hmem
      exact (List.nodup_append.mp hnames).2.2 e.1 hmem e.1 List.mem_cons_self rfl
    have hown : (blockItems [key, e.1] false e.2).foldlM addItem
        (given, before ++ [(key, .table .implied inner)]) = some ([key, e.1], _) :=
      foldlM_tableItems (leads_root.table hkey (by decide)) hname (hkeys e List.mem_cons_self)
    obtain ⟨last, hlater⟩ := ih [key, e.1] (inner ++ [(e.1, .table .headed e.2)])
      (by simpa using hnames) fun d hd => hkeys d (List.mem_cons_of_mem e hd)
    refine ⟨last, ?_⟩
    rw [List.flatMap_cons, List.foldlM_append, hown]
    simpa using hlater

/-- Tables in a table that has no header of its own. -/
theorem foldlM_impliedTable {tables : List (Text × Fields)} (given : List Text)
    (hkey : key ∉ before.map Prod.fst) (hne : tables ≠ [])
    (hnames : (tables.map Prod.fst).Nodup) (hkeys : ∀ e ∈ tables, (e.2.map Prod.fst).Nodup) :
    ∃ last, (tables.flatMap fun e => blockItems [key, e.1] false e.2).foldlM addItem
        (given, before) =
      some (last, before ++ [(key, .table .implied
        (tables.map fun e => (e.1, .table .headed e.2)))]) := by
  obtain ⟨e, tables, rfl⟩ := List.exists_cons_of_ne_nil hne
  have hown : (blockItems [key, e.1] false e.2).foldlM addItem (given, before) =
      some ([key, e.1], before ++ [(key, .table .implied [(e.1, .table .headed e.2)])]) := by
    have hname : e.1 ∉ List.map Prod.fst ([] : Fields) := List.not_mem_nil
    have hl : Leads .headed [key, e.1]
        fun inner => before ++ [(key, .table .implied ([] ++ [(e.1, .table .headed inner)]))] :=
      (leads_root.table hkey (by decide)).table hname (by decide)
    exact foldlM_blockItems (open?_implied hkey) hl (hkeys e List.mem_cons_self)
  obtain ⟨last, hlater⟩ := foldlM_innerTables [key, e.1] [(e.1, .table .headed e.2)] hkey
    hnames fun d hd => hkeys d (List.mem_cons_of_mem e hd)
  refine ⟨last, ?_⟩
  rw [List.flatMap_cons, List.foldlM_append, hown]
  exact hlater

end CommentTags.Toml.Fields
