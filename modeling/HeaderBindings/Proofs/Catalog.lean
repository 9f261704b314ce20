import Mathlib.Data.List.Flatten
import HeaderBindings.Catalog
import HeaderBindings.Proofs.Artifact.Mention
import HeaderBindings.Proofs.Catalog.Entry
import HeaderBindings.Proofs.Declared
import HeaderBindings.Proofs.Exclusion

/-!
# What the built-in document declares

For every platform and every list of exclusions, the document has the enums and the
aggregate that are not excluded, and the functions of these that touch nothing excluded.
The names of enums and of the aggregate are plain, so no exclusion covers one of them
without naming it; the names of functions are not plain, and are therefore tested one by one
when the document is made. Together: no exclusion covers a declared name (`not_covered`).
-/

namespace HeaderBindings

open HeaderBindings.Artifact

namespace Catalog

variable (p : Platform) (x : ExclusionList)

theorem mem_keptEntries_iff (e : CatalogEntry) :
    e ∈ keptEntries x ↔ ∃ f : Family, entryOf f = e ∧ x.excludes f.name = false := by
  simp only [keptEntries, List.mem_filter, mem_entries_iff, Bool.not_eq_true']
  constructor
  · rintro ⟨⟨f, rfl⟩, kept⟩
    exact ⟨f, rfl, kept⟩
  · rintro ⟨f, rfl, kept⟩
    exact ⟨⟨f, rfl⟩, kept⟩

theorem mem_keptFunctions_iff (function : String × FunctionDecl) :
    function ∈ keptFunctions x ↔
      (∃ f : Family, x.excludes f.name = false ∧ function ∈ (entryOf f).functions) ∨
      (x.excludes aggregateName = false ∧ function = aggregateFunction) := by
  rw [keptFunctions, List.mem_append, List.mem_flatMap]
  refine or_congr ?_ ?_
  · simp only [mem_keptEntries_iff]
    constructor
    · rintro ⟨e, ⟨f, rfl, kept⟩, inside⟩
      exact ⟨f, kept, inside⟩
    · rintro ⟨f, kept, inside⟩
      exact ⟨entryOf f, ⟨f, rfl, kept⟩, inside⟩
  · cases x.excludes aggregateName <;> simp

theorem names_nodup : (entries.map (·.name)).Nodup := by
  decide

/-- All functions of the catalog. -/
def allFunctions : List (String × FunctionDecl) :=
  entries.flatMap (·.functions) ++ [aggregateFunction]

theorem symbols_nodup : (allFunctions.map (·.1)).Nodup := by
  decide +kernel

theorem keptFunctions_sublist : (keptFunctions x).Sublist allFunctions := by
  refine (List.filter_sublist.flatMap _).append ?_
  split
  · exact List.nil_sublist _
  · exact List.Sublist.refl _

theorem find?_enums_eq_some_iff (name : String) (decl : EnumDecl) :
    (document p x).enums.find? name = some decl ↔
      ∃ f : Family, x.excludes f.name = false ∧ name = f.name ∧ decl = (entryOf f).enumDecl := by
  have distinct : (((keptEntries x).map fun e => (e.name, e.enumDecl)).map (·.1)).Nodup := by
    rw [List.map_map]
    exact names_nodup.sublist (List.filter_sublist.map _)
  rw [document, NameMap.find?_ofList_eq_some_iff distinct]
  simp only [List.mem_map, mem_keptEntries_iff, Prod.mk.injEq]
  constructor
  · rintro ⟨e, ⟨f, rfl, kept⟩, rfl, rfl⟩
    exact ⟨f, kept, rfl, rfl⟩
  · rintro ⟨f, kept, rfl, rfl⟩
    exact ⟨entryOf f, ⟨f, rfl, kept⟩, rfl, rfl⟩

theorem find?_functions_eq_some_iff (symbol : String) (decl : FunctionDecl) :
    (document p x).functions.find? symbol = some decl ↔
      (symbol, decl) ∈ keptFunctions x ∧ touchesExcluded x symbol decl = false := by
  have distinct : ((keptFunctions x).map (·.1)).Nodup :=
    symbols_nodup.sublist ((keptFunctions_sublist x).map _)
  rw [document, NameMap.find?_filter_eq_some_iff, NameMap.find?_ofList_eq_some_iff distinct,
    Bool.not_eq_true']

theorem find?_opaqueTypes_eq_some_iff (name : String) (decl : OpaqueDecl) :
    (document p x).opaqueTypes.find? name = some decl ↔
      x.excludes aggregateName = false ∧ name = aggregateName ∧ decl = aggregateDecl p := by
  have distinct : ([(aggregateName, aggregateDecl p)].map (·.1)).Nodup := by simp
  rw [document]
  cases x.excludes aggregateName with
  | true => simp
  | false => simp [NameMap.find?_ofList_eq_some_iff distinct]

/-- The declared names: those of kept enums, of functions that touch nothing excluded, and of the
aggregate unless it is excluded. -/
theorem mem_declaredNames_iff (name : String) :
    name ∈ (document p x).declaredNames ↔
      (∃ f : Family, x.excludes f.name = false ∧ name = f.name) ∨
      (∃ decl, (name, decl) ∈ keptFunctions x ∧ touchesExcluded x name decl = false) ∨
      (x.excludes aggregateName = false ∧ name = aggregateName) := by
  simp only [Document.mem_declaredNames_iff, find?_enums_eq_some_iff, find?_functions_eq_some_iff,
    find?_opaqueTypes_eq_some_iff]
  refine or_congr ?_ (or_congr_right ?_)
  · exact ⟨fun ⟨_, f, kept, same, _⟩ => ⟨f, kept, same⟩, fun ⟨f, kept, same⟩ => ⟨_, f, kept, same, rfl⟩⟩
  · exact ⟨fun ⟨_, kept, same, _⟩ => ⟨kept, same⟩, fun ⟨kept, same⟩ => ⟨_, kept, same, rfl⟩⟩

theorem plain_name (f : Family) : Exclusion.Plain f.name := by
  have table : ∀ f ∈ Family.all, Exclusion.Plain f.name := by decide
  exact table f f.mem_all

theorem isIdentifier_name (f : Family) : IsIdentifier f.name := by
  have table : ∀ f ∈ Family.all, IsIdentifier f.name := by decide
  exact table f f.mem_all

theorem isIdentifier_function (f : Family) {verb : String}
    (letters : verb.toList.all isWordChar = true) : IsIdentifier (f.name ++ verb ++ f.name) :=
  ((isIdentifier_name f).append letters).append (List.all_eq_true.2 (isIdentifier_name f).1)

theorem isIdentifier_returnSymbol (f : Family) : IsIdentifier f.returnSymbol := by
  unfold Family.returnSymbol
  split
  · decide
  · exact isIdentifier_function f (by decide)

theorem isIdentifier_of_mem_keptFunctions {function : String × FunctionDecl}
    (member : function ∈ keptFunctions x) : IsIdentifier function.1 := by
  rcases (mem_keptFunctions_iff x function).1 member with ⟨f, -, inside⟩ | ⟨-, rfl⟩
  · rcases List.mem_cons.1 inside with rfl | later
    · exact isIdentifier_function f (by decide)
    · rw [List.mem_singleton.1 later]
      exact isIdentifier_returnSymbol f
  · decide

theorem isIdentifier_of_mem_declaredNames {name : String}
    (declared : name ∈ (document p x).declaredNames) : IsIdentifier name := by
  rcases (mem_declaredNames_iff p x name).1 declared with ⟨f, -, rfl⟩ | ⟨decl, listed, -⟩ | ⟨-, rfl⟩
  · exact isIdentifier_name f
  · exact isIdentifier_of_mem_keptFunctions x listed
  · decide

/-- No exclusion covers a declared name. -/
theorem not_covered {name : String} (declared : name ∈ (document p x).declaredNames) :
    ∀ e ∈ x.rules, e.covers name = false := by
  rcases (mem_declaredNames_iff p x name).1 declared with
    ⟨f, kept, rfl⟩ | ⟨decl, -, untouched⟩ | ⟨kept, rfl⟩
  · exact ExclusionList.covers_eq_false_of_plain (plain_name f) kept
  -- The symbol of a function was tested when the document was made.
  · rw [touchesExcluded, Bool.or_assoc, Bool.or_eq_false_iff] at untouched
    rw [← ExclusionList.covering?_eq_none_iff]
    simpa using untouched.1
  · exact ExclusionList.covers_eq_false_of_plain (by decide) kept

end Catalog

end HeaderBindings
