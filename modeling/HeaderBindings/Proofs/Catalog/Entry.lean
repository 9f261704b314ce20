import HeaderBindings.Catalog
import HeaderBindings.Proofs.Family

/-!
# Entries and their exports

The catalog and the exports list the families in orders of their own, and an entry is joined to its
exported functions by the name of the enum. No two families have one name, so the name of a family
finds the functions exported for that family (`Family.find?_name`), and no family is left out of the
catalog (`Catalog.entries_eq`).
-/

namespace HeaderBindings

/-- Every family is exported. -/
theorem Export.mem_all_iff (e : Export) : e ∈ Export.all ↔ ∃ f : Family, f.exported = e := by
  have listed : ∀ f : Family, f ∈ Export.families := fun f => by cases f <;> decide
  simp only [Export.all, List.mem_map, listed, true_and]

namespace Family

theorem exported_mem_all (f : Family) : f.exported ∈ Export.all :=
  (Export.mem_all_iff _).2 ⟨f, rfl⟩

/-- The name of a family finds its exported functions. -/
theorem find?_name (f : Family) : Export.find? f.name = some f.exported := by
  have table : ∀ g ∈ all, (Export.families.find? fun h => h.name == g.name) = some g := by decide
  rw [Export.find?, Export.all, List.find?_map]
  change (Export.families.find? fun h => h.name == f.name).map exported = some f.exported
  rw [table f f.mem_all, Option.map_some]

end Family

namespace Catalog

/-- The entry that a family has in the catalog. -/
def entryOf (f : Family) : CatalogEntry :=
  ⟨f.name, directory f ++ "/" ++ f.name ++ ".h", f.integerType, f.constants, f.exported⟩

theorem entryOf?_eq (f : Family) : entryOf? f = some (entryOf f) := by
  rw [entryOf?, f.find?_name]
  rfl

/-- Every family has its entry. -/
theorem entries_eq : entries = Family.all.map entryOf := by
  have found : entryOf? = some ∘ entryOf := funext entryOf?_eq
  rw [entries, found, List.filterMap_eq_map]

theorem mem_entries_iff (e : CatalogEntry) : e ∈ entries ↔ ∃ f, entryOf f = e := by
  rw [entries_eq, List.mem_map]
  constructor
  · rintro ⟨f, -, same⟩
    exact ⟨f, same⟩
  · rintro ⟨f, same⟩
    exact ⟨f, f.mem_all, same⟩

theorem entryOf_mem (f : Family) : entryOf f ∈ entries :=
  (mem_entries_iff _).2 ⟨f, rfl⟩

theorem name_mem_entries (f : Family) : f.name ∈ entries.map (·.name) :=
  List.mem_map.2 ⟨entryOf f, entryOf_mem f, rfl⟩

end Catalog

end HeaderBindings
