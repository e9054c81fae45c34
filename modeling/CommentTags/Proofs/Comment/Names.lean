import CommentTags.Proofs.Comment.Lookup
import CommentTags.Proofs.Sort
import CommentTags.Scanner

/-!
The names of languages. A table has one entry for each identifier, in lower case, whatever languages
the user gives; so two names of which only the case differs are one language to every scan.
-/
namespace CommentTags.Languages

variable {t : Languages} {x y : String}

/-- No identifier has two entries. -/
def HasOneEach (t : Languages) : Prop := (t.entries.map Prod.fst).Nodup

theorem hasOneEach_standard : standard.HasOneEach := by
  have hnodup : (builtin.map Prod.fst).Nodup := by decide +kernel
  exact hnodup

theorem HasOneEach.insert (ht : t.HasOneEach) (name : String) (m : Markers) :
    (t.insert name m).HasOneEach := by
  have hkept : ((t.entries.filter fun e => e.1 != lowerCase name).map Prod.fst).Nodup :=
    List.Pairwise.sublist (List.filter_sublist.map Prod.fst) ht
  rw [HasOneEach, Languages.insert, List.map_append, List.nodup_append]
  refine ⟨hkept, List.nodup_singleton _, ?_⟩
  intro j hj k hk
  obtain ⟨e, he, rfl⟩ := List.mem_map.mp hj
  rw [List.mem_singleton.mp hk]
  exact bne_iff_ne.mp (List.mem_filter.mp he).2

theorem isLowered_withOverrides (given : List (String × Markers)) :
    (withOverrides given).IsLowered :=
  List.foldlRecOn given _ isLowered_standard fun _ ht e _ => ht.insert e.1 e.2

theorem hasOneEach_withOverrides (given : List (String × Markers)) :
    (withOverrides given).HasOneEach :=
  List.foldlRecOn given _ hasOneEach_standard fun _ ht e _ => ht.insert e.1 e.2

theorem IsLowered.get?_congr (ht : t.IsLowered) (h : lowerCase x = lowerCase y) :
    t.get? x = t.get? y := by
  rw [ht.get?_eq, ht.get?_eq, h]

theorem lookup_isSome_iff {key : String} :
    (t.entries.lookup key).isSome = true ↔ key ∈ t.names := by
  rw [List.lookup_isSome_iff, names, List.mem_mergeSort, List.mem_map]
  constructor
  · rintro ⟨e, he, hkey⟩
    exact ⟨e, he, (beq_iff_eq.mp hkey).symm⟩
  · rintro ⟨e, he, rfl⟩
    exact ⟨e, he, beq_self_eq_true _⟩

theorem IsLowered.mem_names_iff (ht : t.IsLowered) {key : String} :
    key ∈ t.names ↔ ∃ name, t.contains name = true ∧ lowerCase name = key := by
  have hcontains : ∀ name, t.contains name = true ↔ lowerCase name ∈ t.names := by
    intro name
    rw [contains, ht.get?_eq, lookup_isSome_iff]
  constructor
  · intro hkey
    obtain ⟨e, he, rfl⟩ := List.mem_map.mp (List.mem_mergeSort.mp hkey)
    refine ⟨e.1, ?_, ht e he⟩
    rwa [hcontains, ht e he]
  · rintro ⟨name, hname, rfl⟩
    exact (hcontains name).mp hname

theorem HasOneEach.pairwise_names (ht : t.HasOneEach) : t.names.Pairwise fun j k => j < k :=
  Sort.pairwise_lt_mergeSort ht

theorem scan_congr (h : t.get? x = t.get? y) (tags : TagSet) (cache : Cache) (d : Source) :
    Scanner.scan ⟨tags, t, cache⟩ { d with language := x } =
      Scanner.scan ⟨tags, t, cache⟩ { d with language := y } := by
  have hsearch : ∀ (m : Markers) (state : BlockState) (line count : Nat),
      Source.search { d with language := x } tags m state line count =
        Source.search { d with language := y } tags m state line count := by
    intro m state line count
    induction count generalizing state line with
    | zero => rfl
    | succ count ih => simp only [Source.search, ih]
  simp only [Scanner.scan, h, hsearch]

/-- However the user writes the names: what a language has for markers are those of the last one
given by its name in any case, or else of the built-in one. Two names that are one in lower case are
looked up and scanned alike. The identifiers that are known come in increasing order, each once and
in lower case. -/
theorem withOverrides_ignoresCase (given : List (String × Markers)) :
    let t := withOverrides given
    (∀ name, t.get? name = (lastOf? given name).or (builtin.lookup (lowerCase name))) ∧
    (∀ x y, lowerCase x = lowerCase y →
      t.get? x = t.get? y ∧ t.contains x = t.contains y ∧
      ∀ (tags : TagSet) (cache : Cache) (d : Source),
        Scanner.scan ⟨tags, t, cache⟩ { d with language := x } =
          Scanner.scan ⟨tags, t, cache⟩ { d with language := y }) ∧
    t.names.Pairwise (fun j k => j < k) ∧
    ∀ key, key ∈ t.names ↔ ∃ name, t.contains name = true ∧ lowerCase name = key := by
  intro t
  have ht : t.IsLowered := isLowered_withOverrides given
  refine ⟨?_, ?_, (hasOneEach_withOverrides given).pairwise_names, fun key => ht.mem_names_iff⟩
  · intro name
    rw [get?_withOverrides, isLowered_standard.get?_eq]
    rfl
  · intro x y hxy
    have hget : t.get? x = t.get? y := ht.get?_congr hxy
    exact ⟨hget, congrArg Option.isSome hget, scan_congr hget⟩

theorem withOverrides_ignoresCase_accent :
    let t := withOverrides [("Éclat", .lineOnly "%")]
    lowerCase "ÉCLAT" = lowerCase "Éclat" ∧ t.get? "ÉCLAT" = t.get? "Éclat" := by
  have hcase : lowerCase "ÉCLAT" = lowerCase "Éclat" := by decide +kernel
  exact ⟨hcase, ((withOverrides_ignoresCase _).2.1 _ _ hcase).1⟩

end CommentTags.Languages
