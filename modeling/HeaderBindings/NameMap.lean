/-!
# Maps keyed by name

A map is a list of entries whose names are strictly increasing, so each name has
at most one value and the entries of two equal maps stand in the same order.
Names are ordered by their code points.
-/

namespace HeaderBindings

/-- Values keyed by name, in increasing order of the names. -/
@[ext]
structure NameMap (α : Type) where
  entries : List (String × α)
  sorted : entries.Pairwise (fun a b => a.1 < b.1)
deriving DecidableEq

namespace NameMap

variable {α β : Type}

/-- Puts an entry in its place and replaces an entry of the same name. -/
def insertEntry (name : String) (value : α) : List (String × α) → List (String × α)
  | [] => [(name, value)]
  | e :: rest =>
    if name < e.1 then (name, value) :: e :: rest
    else if name = e.1 then (name, value) :: rest
    else e :: insertEntry name value rest

theorem mem_insertEntry {name : String} {value : α} {entries : List (String × α)}
    {e : String × α} (member : e ∈ insertEntry name value entries) :
    e = (name, value) ∨ e ∈ entries := by
  induction entries with
  | nil => simpa [insertEntry] using member
  | cons head rest ih =>
    unfold insertEntry at member
    split at member
    · simpa using member
    · split at member
      · rcases List.mem_cons.1 member with h | h
        · exact .inl h
        · exact .inr (List.mem_cons_of_mem _ h)
      · rcases List.mem_cons.1 member with h | h
        · exact .inr (h ▸ List.mem_cons_self)
        · exact (ih h).imp id (List.mem_cons_of_mem _)

theorem lt_of_not_lt {a b : String} (notLess : ¬ a < b) (different : a ≠ b) : b < a := by
  rcases Decidable.em (b < a) with h | h
  · exact h
  · exact absurd (String.le_antisymm (String.not_lt.1 h) (String.not_lt.1 notLess)) different

theorem sorted_insertEntry (name : String) (value : α) {entries : List (String × α)}
    (sorted : entries.Pairwise (fun a b => a.1 < b.1)) :
    (insertEntry name value entries).Pairwise (fun a b => a.1 < b.1) := by
  induction entries with
  | nil => simp [insertEntry]
  | cons head rest ih =>
    have above := (List.pairwise_cons.1 sorted).1
    have restSorted := (List.pairwise_cons.1 sorted).2
    unfold insertEntry
    split
    · rename_i less
      refine List.pairwise_cons.2 ⟨fun e h => ?_, sorted⟩
      rcases List.mem_cons.1 h with h | h
      · exact h ▸ less
      · exact String.lt_trans less (above e h)
    · rename_i notLess
      split
      · rename_i same
        exact List.pairwise_cons.2 ⟨fun e h => same ▸ above e h, restSorted⟩
      · rename_i different
        refine List.pairwise_cons.2 ⟨fun e h => ?_, ih restSorted⟩
        rcases mem_insertEntry h with h | h
        · exact h ▸ lt_of_not_lt notLess different
        · exact above e h

def empty : NameMap α := ⟨[], .nil⟩

instance : Inhabited (NameMap α) := ⟨empty⟩

def insert (m : NameMap α) (name : String) (value : α) : NameMap α :=
  ⟨insertEntry name value m.entries, sorted_insertEntry name value m.sorted⟩

def find? (m : NameMap α) (name : String) : Option α :=
  m.entries.lookup name

def contains (m : NameMap α) (name : String) : Bool :=
  m.entries.any (·.1 == name)

/-- Sets the value of a name unless it has one. -/
def insertNew (m : NameMap α) (name : String) (value : α) : NameMap α :=
  if m.contains name then m else m.insert name value

/-- The names that have values, in increasing order. -/
def names (m : NameMap α) : List String :=
  m.entries.map (·.1)

def size (m : NameMap α) : Nat :=
  m.entries.length

/-- The map of a list of entries; the last of several entries of one name counts. -/
def ofList (entries : List (String × α)) : NameMap α :=
  entries.foldl (fun m e => m.insert e.1 e.2) empty

/-- The map of a list of entries; the first of several entries of one name counts. -/
def ofListFirst (entries : List (String × α)) : NameMap α :=
  entries.foldl (fun m e => m.insertNew e.1 e.2) empty

def filter (m : NameMap α) (keep : String → α → Bool) : NameMap α :=
  ⟨m.entries.filter fun e => keep e.1 e.2, m.sorted.sublist List.filter_sublist⟩

end NameMap

/-- The distinct names of a list, in increasing order. -/
def sortedNames (names : List String) : List String :=
  (NameMap.ofList (names.map fun name => (name, ()))).names

end HeaderBindings
