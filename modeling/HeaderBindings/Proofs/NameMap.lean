import HeaderBindings.NameMap

/-!
# Looking names up

The value that `find?` gives for each name determines a map (`ext_find?`), because
the entries are strictly ordered. Operations are therefore described by what is
found after them; no later proof unfolds `insertEntry` or inspects the order.
-/

namespace HeaderBindings

/-- Lists that are strictly increasing in one order and have the same members are equal. -/
theorem eq_of_increasing {α : Type} {less : α → α → Prop} (asymm : ∀ a b, less a b → ¬ less b a)
    {xs ys : List α} (xsSorted : xs.Pairwise less) (ysSorted : ys.Pairwise less)
    (members : ∀ a, a ∈ xs ↔ a ∈ ys) : xs = ys := by
  have distinct : ∀ list : List α, list.Pairwise less → list.Nodup := by
    intro list sorted
    refine sorted.imp ?_
    rintro a b below rfl
    exact asymm a a below below
  have permuted : xs.Perm ys :=
    (List.perm_ext_iff_of_nodup (distinct xs xsSorted) (distinct ys ysSorted)).2 members
  exact permuted.eq_of_pairwise (fun a b _ _ below above => absurd above (asymm a b below))
    xsSorted ysSorted

namespace NameMap

variable {α β : Type}

theorem lookup_cons_eq (name query : String) (value : α) (rest : List (String × α)) :
    ((name, value) :: rest).lookup query =
      if query = name then some value else rest.lookup query := by
  by_cases same : query = name
  · simp [same]
  · have test : (query == name) = false := beq_eq_false_iff_ne.2 same
    simp only [List.lookup_cons, test, if_neg same]

/-- Insertion changes the value of exactly one name. No order is needed for this. -/
theorem lookup_insertEntry (name query : String) (value : α) (entries : List (String × α)) :
    (insertEntry name value entries).lookup query =
      if query = name then some value else entries.lookup query := by
  induction entries with
  | nil => exact lookup_cons_eq name query value []
  | cons head rest ih =>
    rcases head with ⟨headName, headValue⟩
    unfold insertEntry
    split
    · exact lookup_cons_eq name query value _
    · split
      · rename_i _ replaced
        simp only at replaced
        subst replaced
        rw [lookup_cons_eq, lookup_cons_eq]
        by_cases same : query = name <;> simp only [same, if_true, if_false]
      · rename_i _ different
        rw [lookup_cons_eq, lookup_cons_eq, ih]
        by_cases same : query = headName
        · subst same
          simp only [if_true, if_neg (Ne.symm different)]
        · simp only [if_neg same]

@[simp] theorem find?_empty (name : String) : (empty : NameMap α).find? name = none := rfl

theorem find?_insert (m : NameMap α) (name query : String) (value : α) :
    (m.insert name value).find? query = if query = name then some value else m.find? query :=
  lookup_insertEntry name query value m.entries

/-- A name that stands before all entries has no value. -/
theorem lookup_eq_none_of_lt {name : String} {entries : List (String × α)}
    (below : ∀ e ∈ entries, name < e.1) : entries.lookup name = none := by
  rw [List.lookup_eq_none_iff]
  intro e member
  have different : name ≠ e.1 := fun same => String.lt_irrefl _ (same ▸ below e member)
  simpa using different

/-- The entries of one name: one if the name has a value and none otherwise. -/
theorem filter_entries_eq {name : String} {entries : List (String × α)}
    (sorted : entries.Pairwise (fun a b => a.1 < b.1)) :
    entries.filter (·.1 == name) = (entries.lookup name).toList.map (name, ·) := by
  induction entries with
  | nil => rfl
  | cons head rest ih =>
    rcases head with ⟨headName, headValue⟩
    obtain ⟨above, restSorted⟩ := List.pairwise_cons.1 sorted
    rw [List.filter_cons, ih restSorted, lookup_cons_eq]
    by_cases same : headName = name
    · subst same
      simp [lookup_eq_none_of_lt above]
    · simp [same, Ne.symm same]

theorem mem_entries_iff (m : NameMap α) (name : String) (value : α) :
    (name, value) ∈ m.entries ↔ m.find? name = some value := by
  have filtered : (name, value) ∈ m.entries.filter (·.1 == name) ↔ (name, value) ∈ m.entries := by
    simp
  rw [← filtered, filter_entries_eq m.sorted]
  simp [find?]

/-- Two maps that give every name the same value are equal. -/
theorem ext_find? {m n : NameMap α} (same : ∀ name, m.find? name = n.find? name) : m = n := by
  have members : ∀ e, e ∈ m.entries ↔ e ∈ n.entries := by
    rintro ⟨name, value⟩
    rw [mem_entries_iff, mem_entries_iff, same name]
  exact NameMap.ext (eq_of_increasing (fun _ _ => String.lt_asymm) m.sorted n.sorted members)

theorem mem_names_iff (m : NameMap α) (name : String) :
    name ∈ m.names ↔ ∃ value, m.find? name = some value := by
  simp only [names, List.mem_map]
  constructor
  · rintro ⟨⟨_, value⟩, member, rfl⟩
    exact ⟨value, (mem_entries_iff m _ value).1 member⟩
  · rintro ⟨value, found⟩
    exact ⟨(name, value), (mem_entries_iff m name value).2 found, rfl⟩

theorem names_sorted (m : NameMap α) : m.names.Pairwise (· < ·) :=
  List.pairwise_map.2 m.sorted

theorem names_nodup (m : NameMap α) : m.names.Nodup :=
  m.names_sorted.imp String.ne_of_lt

theorem mem_names_insert (m : NameMap α) (name query : String) (value : α) :
    query ∈ (m.insert name value).names ↔ query = name ∨ query ∈ m.names := by
  simp only [mem_names_iff, find?_insert]
  by_cases same : query = name <;> simp [same]

/-- What a whole run of insertions adds: the names of the inserted entries. -/
theorem mem_names_foldl_insert (entries : List (String × α)) (m : NameMap α) (name : String) :
    name ∈ (entries.foldl (fun m e => m.insert e.1 e.2) m).names ↔
      name ∈ m.names ∨ name ∈ entries.map (·.1) := by
  induction entries generalizing m with
  | nil => simp
  | cons head rest ih =>
    rw [List.foldl_cons, ih, mem_names_insert, List.map_cons, List.mem_cons]
    rw [← or_assoc, or_comm (a := name = head.1)]

theorem contains_iff (m : NameMap α) (name : String) : m.contains name = true ↔ name ∈ m.names := by
  simp [contains, names]

theorem contains_eq_isSome (m : NameMap α) (name : String) :
    m.contains name = (m.find? name).isSome := by
  rw [Bool.eq_iff_iff, contains_iff, mem_names_iff, Option.isSome_iff_exists]

/-- Inserting only what is new never changes a value. -/
theorem find?_insertNew (m : NameMap α) (name query : String) (value : α) :
    (m.insertNew name value).find? query =
      (m.find? query).or (if query = name then some value else none) := by
  unfold insertNew
  split
  · rename_i present
    rw [contains_eq_isSome] at present
    by_cases same : query = name
    · obtain ⟨earlier, found⟩ := Option.isSome_iff_exists.1 present
      rw [same, found, Option.some_or]
    · rw [if_neg same, Option.or_none]
  · rename_i absent
    rw [contains_eq_isSome, Bool.not_eq_true, Option.isSome_eq_false_iff,
      Option.isNone_iff_eq_none] at absent
    rw [find?_insert]
    by_cases same : query = name
    · rw [if_pos same, if_pos same, same, absent, Option.none_or]
    · rw [if_neg same, if_neg same, Option.or_none]

/-- The first of several entries of a name gives its value. -/
theorem find?_ofListFirst (entries : List (String × α)) (query : String) :
    (ofListFirst entries).find? query = entries.lookup query := by
  have run : ∀ m : NameMap α, (entries.foldl (fun m e => m.insertNew e.1 e.2) m).find? query =
      (m.find? query).or (entries.lookup query) := by
    induction entries with
    | nil => exact fun m => (Option.or_none).symm
    | cons head rest ih =>
      intro m
      rw [List.foldl_cons, ih, find?_insertNew, lookup_cons_eq, Option.or_assoc]
      by_cases same : query = head.1
      · rw [if_pos same, if_pos same, Option.some_or]
      · rw [if_neg same, if_neg same, Option.none_or]
  rw [ofListFirst, run, find?_empty, Option.none_or]

theorem mem_names_ofListFirst (entries : List (String × α)) (name : String) :
    name ∈ (ofListFirst entries).names ↔ name ∈ entries.map (·.1) := by
  simp only [mem_names_iff, find?_ofListFirst]
  rw [← Option.isSome_iff_exists, Option.isSome_iff_ne_none, ne_eq, List.lookup_eq_none_iff]
  simp

/-- What a whole run of insertions makes of a name, if each name is inserted once. -/
theorem find?_foldl_insert {entries : List (String × α)} (distinct : (entries.map (·.1)).Nodup)
    (m : NameMap α) (query : String) :
    (entries.foldl (fun m e => m.insert e.1 e.2) m).find? query =
      (entries.lookup query).or (m.find? query) := by
  induction entries generalizing m with
  | nil => rfl
  | cons head rest ih =>
    obtain ⟨absent, restDistinct⟩ := List.nodup_cons.1 distinct
    rw [List.foldl_cons, ih restDistinct, find?_insert, lookup_cons_eq]
    by_cases same : query = head.1
    · have unlisted : rest.lookup query = none := by
        rw [List.lookup_eq_none_iff]
        intro e member
        have different : query ≠ e.1 := fun equal =>
          absent (List.mem_map.2 ⟨e, member, equal.symm.trans same⟩)
        simpa using different
      rw [unlisted, if_pos same, if_pos same, Option.none_or, Option.some_or]
    · rw [if_neg same, if_neg same]

theorem lookup_eq_some_iff_mem {entries : List (String × α)}
    (distinct : (entries.map (·.1)).Nodup) (name : String) (value : α) :
    entries.lookup name = some value ↔ (name, value) ∈ entries := by
  constructor
  · intro found
    obtain ⟨before, after, rfl, -⟩ := List.lookup_eq_some_iff.1 found
    simp
  · intro member
    obtain ⟨before, after, rfl⟩ := List.append_of_mem member
    refine List.lookup_eq_some_iff.2 ⟨before, after, rfl, fun e earlier => ?_⟩
    rw [List.map_append, List.map_cons] at distinct
    have different := (List.nodup_append.1 distinct).2.2 e.1 (List.mem_map_of_mem earlier) name
      List.mem_cons_self
    simpa using Ne.symm different

/-- A list whose names are distinct and its map have the same entries. -/
theorem find?_ofList_eq_some_iff {entries : List (String × α)}
    (distinct : (entries.map (·.1)).Nodup) (name : String) (value : α) :
    (ofList entries).find? name = some value ↔ (name, value) ∈ entries := by
  rw [ofList, find?_foldl_insert distinct, find?_empty, Option.or_none,
    lookup_eq_some_iff_mem distinct]

theorem find?_filter_eq_some_iff (m : NameMap α) (keep : String → α → Bool) (name : String)
    (value : α) : (m.filter keep).find? name = some value ↔
      m.find? name = some value ∧ keep name value = true := by
  rw [← mem_entries_iff, ← mem_entries_iff, filter, List.mem_filter]

/-- The entries of a map make up the map. -/
@[simp] theorem ofList_entries (m : NameMap α) : ofList m.entries = m := by
  refine ext_find? fun name => ?_
  rw [ofList, find?_foldl_insert m.names_nodup, find?_empty, Option.or_none, find?]

/-- Changes every value and keeps the names. -/
def mapValues (m : NameMap α) (f : α → β) : NameMap β :=
  ⟨m.entries.map fun e => (e.1, f e.2), List.pairwise_map.2 m.sorted⟩

@[simp] theorem find?_mapValues (m : NameMap α) (f : α → β) (name : String) :
    (m.mapValues f).find? name = (m.find? name).map f := by
  change (m.entries.map fun e => (e.1, f e.2)).lookup name = (m.entries.lookup name).map f
  induction m.entries with
  | nil => rfl
  | cons head rest ih =>
    rw [List.map_cons, lookup_cons_eq, lookup_cons_eq, ih]
    by_cases same : name = head.1 <;> simp [same]

end NameMap

theorem mem_sortedNames (names : List String) (name : String) :
    name ∈ sortedNames names ↔ name ∈ names := by
  unfold sortedNames NameMap.ofList
  rw [NameMap.mem_names_foldl_insert]
  simp [NameMap.names, NameMap.empty]

theorem sortedNames_sorted (names : List String) : (sortedNames names).Pairwise (· < ·) :=
  NameMap.names_sorted _

end HeaderBindings
