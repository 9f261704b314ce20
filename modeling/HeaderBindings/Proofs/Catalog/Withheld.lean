import HeaderBindings.Proofs.Catalog.Merging

/-!
# What a document tells of the names that are excluded

An exclusion may name any declaration of the catalog: an enum, the aggregate or a function.
A declaration that is excluded by its own name is never declared, whatever its kind. The
list of excluded names tells of enums and of the aggregate, but not of functions: these are
removed by a test that leaves no trace. So a function that is excluded by name is in
neither place (`excluded_name_listed_iff`).
-/

namespace HeaderBindings

namespace Catalog

/-- The names of the declarations of the catalog: of its types and of its functions. -/
def declarationNames : List String :=
  typeNames ++ ownedFunctions.map (·.symbol)

/-- Among the declarations of the catalog, those that are no functions are types. -/
theorem mem_typeNames_iff {name : String} (declared : name ∈ declarationNames) :
    name ∈ typeNames ↔ name ∉ ownedFunctions.map (·.symbol) := by
  constructor
  · intro type function
    obtain ⟨f, member, rfl⟩ := List.mem_map.1 function
    exact symbol_not_mem_typeNames member type
  · exact (List.mem_append.1 declared).resolve_right

variable (p : Platform) (x : ExclusionList) {name : String}

/-- The exclusion of a name covers it, and no declared name is covered. -/
theorem not_mem_declaredNames (excluded : x.excludes name = true) :
    name ∉ (document p x).declaredNames := by
  intro declared
  obtain ⟨e, member, rfl⟩ := (x.excludes_iff name).1 excluded
  have uncovered := not_covered p x declared e member
  rw [e.covers_declaration] at uncovered
  cases uncovered

end Catalog

open Catalog in
/-- For every platform and all exclusions, a declaration of the catalog that is excluded by its name
is declared as no kind, and it is listed as excluded if and only if it is no function. -/
theorem excluded_name_listed_iff (p : Platform) (x : ExclusionList) {name : String}
    (declared : name ∈ declarationNames) (excluded : x.excludes name = true) :
    name ∉ (document p x).enums.names ∧ name ∉ (document p x).functions.names ∧
      name ∉ (document p x).opaqueTypes.names ∧
      (name ∈ (document p x).excluded ↔ name ∉ ownedFunctions.map (·.symbol)) := by
  have absent := not_mem_declaredNames p x excluded
  rw [Document.declaredNames, List.mem_append, List.mem_append, not_or, not_or] at absent
  refine ⟨absent.1.1, absent.1.2, absent.2, ?_⟩
  rw [mem_excluded_iff, and_iff_left excluded, mem_typeNames_iff declared]

open Catalog in
/-- The aggregate is listed once it is excluded. -/
theorem excluded_aggregate_listed :
    let x := ExclusionList.withExtra [aggregateName]
    aggregateName ∈ declarationNames ∧ x.excludes aggregateName = true ∧
      aggregateName ∈ (document .macos x).excluded := by
  intro x
  have declared : aggregateName ∈ declarationNames := by decide
  have excluded : x.excludes aggregateName = true := by decide
  have listed := (excluded_name_listed_iff .macos x declared excluded).2.2.2
  exact ⟨declared, excluded, listed.2 (by decide)⟩

open Catalog in
/-- A function that is excluded by its name is neither declared nor listed. -/
theorem excluded_function_not_listed :
    let symbol := "Enum_Force_UInt8__print_Enum_Force_UInt8"
    let x := ExclusionList.withExtra [symbol]
    symbol ∈ declarationNames ∧ x.excludes symbol = true ∧
      symbol ∉ (document .linux x).declaredNames ∧ symbol ∉ (document .linux x).excluded := by
  intro symbol x
  have excluded : x.excludes symbol = true := by decide
  refine ⟨by decide, excluded, not_mem_declaredNames .linux x excluded, ?_⟩
  rw [mem_excluded_iff, and_iff_left excluded]
  decide

end HeaderBindings
