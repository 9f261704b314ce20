import HeaderBindings.Proofs.Artifact.Words
import HeaderBindings.Proofs.Catalog
import HeaderBindings.Proofs.Document.Validity
import Mathlib.Data.List.Nodup

/-!
# How exclusions divide the catalog

The document of a platform declares every type of the catalog or lists it as excluded, and
never does both. Its functions are those whose own type is declared and that nothing
excluded touches; they take and return only types that the document declares, besides the
two that every header knows. The document is valid. All this holds for exclusions with any
names, also those of functions and of the types that are not in the catalog
(`document_divides_catalog`).
-/

namespace HeaderBindings

open HeaderBindings.Artifact HeaderBindings.Text

namespace Catalog

/-- The names of the types of the catalog: the enums and the aggregate. -/
def typeNames : List String :=
  entries.map (·.name) ++ [aggregateName]

/-- A function of the catalog with the type that it belongs to. -/
structure OwnedFunction where
  owner : String
  symbol : String
  decl : FunctionDecl

/-- The functions of the catalog. -/
def ownedFunctions : List OwnedFunction :=
  entries.flatMap (fun e => e.functions.map fun f => ⟨e.name, f.1, f.2⟩) ++
    [⟨aggregateName, aggregateFunction.1, aggregateFunction.2⟩]

/-- Whether a function is declared: neither its type, nor its symbol, nor what it returns is
excluded. -/
def OwnedFunction.Kept (x : ExclusionList) (f : OwnedFunction) : Prop :=
  x.excludes f.owner = false ∧ x.covering? f.symbol = none ∧ x.excludes f.decl.returnType = false

instance (x : ExclusionList) (f : OwnedFunction) : Decidable (f.Kept x) :=
  inferInstanceAs (Decidable (_ ∧ _ ∧ _))

/-- Whether a document is what exclusions leave of the catalog on a platform. -/
structure Divided (p : Platform) (x : ExclusionList) (d : Document) : Prop where
  /-- An enum is declared unless it is excluded, and listed if it is. -/
  enum : ∀ e ∈ entries,
    d.enums.find? e.name = (if x.excludes e.name then none else some e.enumDecl) ∧
      (e.name ∈ d.excluded ↔ x.excludes e.name = true)
  /-- So is the aggregate. -/
  aggregate : d.opaqueTypes.find? aggregateName =
      (if x.excludes aggregateName then none else some (aggregateDecl p)) ∧
    (aggregateName ∈ d.excluded ↔ x.excludes aggregateName = true)
  function : ∀ f ∈ ownedFunctions,
    d.functions.find? f.symbol = if f.Kept x then some f.decl else none
  /-- There are no other declarations. -/
  onlyEnums : ∀ name ∈ d.enums.names, name ∈ entries.map (·.name)
  onlyAggregate : ∀ name ∈ d.opaqueTypes.names, name = aggregateName
  onlyFunctions : ∀ symbol ∈ d.functions.names, symbol ∈ ownedFunctions.map (·.symbol)
  onlyExcluded : ∀ name ∈ d.excluded, name ∈ typeNames
  excludedIncreasing : d.excluded.Pairwise (· < ·)
  parameters : ∀ symbol decl, d.functions.find? symbol = some decl → ∀ q ∈ decl.parameters,
    q.type ∈ d.enums.names ∨ q.type ∈ d.opaqueTypes.names
  returns : ∀ symbol decl, d.functions.find? symbol = some decl →
    decl.returnType = "void" ∨ decl.returnType = "int" ∨ decl.returnType ∈ d.enums.names
  valid : d.validate = .ok ()

section Functions

theorem mem_ownedFunctions_iff (f : OwnedFunction) : f ∈ ownedFunctions ↔
    (∃ g : Family, f.owner = g.name ∧ (f.symbol, f.decl) ∈ (entryOf g).functions) ∨
      (f.owner = aggregateName ∧ (f.symbol, f.decl) = aggregateFunction) := by
  rcases f with ⟨owner, symbol, decl⟩
  simp only [ownedFunctions, List.mem_append, List.mem_flatMap, mem_entries_iff, List.mem_map,
    List.mem_singleton, OwnedFunction.mk.injEq]
  refine or_congr ?_ ?_
  · constructor
    · rintro ⟨_, ⟨g, rfl⟩, ⟨_, _⟩, inside, rfl, rfl, rfl⟩
      exact ⟨g, rfl, inside⟩
    · rintro ⟨g, rfl, inside⟩
      exact ⟨entryOf g, ⟨g, rfl⟩, (symbol, decl), inside, rfl, rfl, rfl⟩
  · rw [Prod.ext_iff]

theorem ownedFunction_ext {f g : OwnedFunction} (left : f ∈ ownedFunctions)
    (right : g ∈ ownedFunctions) (symbols : f.symbol = g.symbol) : f = g := by
  have same : ownedFunctions.map (·.symbol) = allFunctions.map (·.1) := rfl
  exact List.inj_on_of_nodup_map (same ▸ symbols_nodup) left right symbols

theorem parameters_of_mem {f : OwnedFunction} (member : f ∈ ownedFunctions) :
    f.decl.parameters.map (·.type) = [f.owner] := by
  rcases (mem_ownedFunctions_iff f).1 member with ⟨g, owned, inside⟩ | ⟨owned, inside⟩
  · simp only [CatalogEntry.functions, List.mem_cons, List.not_mem_nil, or_false,
      Prod.mk.injEq] at inside
    rcases inside with ⟨-, same⟩ | ⟨-, same⟩
    · rw [same, owned]
      rfl
    · rw [same, owned]
      rfl
  · rw [owned, show f.decl = aggregateFunction.2 from congrArg Prod.snd inside]
    rfl

/-- What a function returns: nothing, a number, or its own type, which is then an enum. -/
theorem returnType_of_mem {f : OwnedFunction} (member : f ∈ ownedFunctions) :
    f.decl.returnType = "void" ∨ f.decl.returnType = "int" ∨
      ∃ g : Family, f.owner = g.name ∧ f.decl.returnType = g.name := by
  rcases (mem_ownedFunctions_iff f).1 member with ⟨g, owned, inside⟩ | ⟨-, inside⟩
  · simp only [CatalogEntry.functions, List.mem_cons, List.not_mem_nil, or_false,
      Prod.mk.injEq] at inside
    rcases inside with ⟨-, same⟩ | ⟨-, same⟩
    · exact .inl (by rw [same])
    · exact .inr (.inr ⟨g, owned, by rw [same]; rfl⟩)
  · rw [show f.decl = aggregateFunction.2 from congrArg Prod.snd inside]
    exact .inr (.inl rfl)

variable (p : Platform) (x : ExclusionList)

theorem mem_keptFunctions_iff_owned (symbol : String) (decl : FunctionDecl) :
    (symbol, decl) ∈ keptFunctions x ↔
      ∃ owner, ⟨owner, symbol, decl⟩ ∈ ownedFunctions ∧ x.excludes owner = false := by
  simp only [mem_keptFunctions_iff, mem_ownedFunctions_iff]
  constructor
  · rintro (⟨g, kept, inside⟩ | ⟨kept, same⟩)
    · exact ⟨g.name, .inl ⟨g, rfl, inside⟩, kept⟩
    · exact ⟨aggregateName, .inr ⟨rfl, same⟩, kept⟩
  · rintro ⟨_, ⟨g, rfl, inside⟩ | ⟨rfl, same⟩, kept⟩
    · exact .inl ⟨g, kept, inside⟩
    · exact .inr ⟨kept, same⟩

/-- A function takes its own type only, so its parameters are excluded together with its type. -/
theorem touchesExcluded_eq_false_iff {f : OwnedFunction} (member : f ∈ ownedFunctions) :
    touchesExcluded x f.symbol f.decl = false ↔ f.Kept x := by
  have parameters : (f.decl.parameters.any fun q => x.excludes q.type) = x.excludes f.owner := by
    have types := congrArg (List.any · x.excludes) (parameters_of_mem member)
    simpa [Function.comp_def] using types
  rw [touchesExcluded, parameters, OwnedFunction.Kept, Bool.or_eq_false_iff, Bool.or_eq_false_iff,
    Option.isSome_eq_false_iff, Option.isNone_iff_eq_none, and_comm]

theorem find?_functions_eq_some_iff_owned (symbol : String) (decl : FunctionDecl) :
    (document p x).functions.find? symbol = some decl ↔
      ∃ f ∈ ownedFunctions, f.symbol = symbol ∧ f.decl = decl ∧ f.Kept x := by
  rw [find?_functions_eq_some_iff, mem_keptFunctions_iff_owned]
  constructor
  · rintro ⟨⟨owner, member, -⟩, untouched⟩
    exact ⟨_, member, rfl, rfl, (touchesExcluded_eq_false_iff x member).1 untouched⟩
  · rintro ⟨f, member, rfl, rfl, kept⟩
    exact ⟨⟨f.owner, member, kept.1⟩, (touchesExcluded_eq_false_iff x member).2 kept⟩

theorem find?_functions_of_mem {f : OwnedFunction} (member : f ∈ ownedFunctions) :
    (document p x).functions.find? f.symbol = if f.Kept x then some f.decl else none := by
  by_cases kept : f.Kept x
  · rw [if_pos kept, find?_functions_eq_some_iff_owned]
    exact ⟨f, member, rfl, rfl, kept⟩
  · rw [if_neg kept, Option.eq_none_iff_forall_ne_some]
    intro decl found
    obtain ⟨g, other, symbols, -, otherKept⟩ :=
      (find?_functions_eq_some_iff_owned p x f.symbol decl).1 found
    exact kept (ownedFunction_ext other member symbols ▸ otherKept)

end Functions

section Validity

theorem isBlankText_of_isIdentifier {name : String} (identifier : IsIdentifier name) :
    isBlankText name = false := by
  obtain ⟨c, inside⟩ := List.exists_mem_of_ne_nil _ identifier.ne_nil
  rw [isBlankText, List.all_eq_false]
  exact ⟨c, inside, by rw [isBlank_of_isWordChar (identifier.1 c inside)]; exact Bool.false_ne_true⟩

theorem isIdentifier_symbol {f : OwnedFunction} (member : f ∈ ownedFunctions) :
    IsIdentifier f.symbol := by
  have kept : (f.symbol, f.decl) ∈ keptFunctions ⟨[]⟩ :=
    (mem_keptFunctions_iff_owned _ _ _).2 ⟨f.owner, member, rfl⟩
  exact isIdentifier_of_mem_keptFunctions _ kept

theorem functionFault?_of_mem {f : OwnedFunction} (member : f ∈ ownedFunctions) :
    Document.functionFault? f.symbol f.decl = none := by
  have returned : IsIdentifier f.decl.returnType := by
    rcases returnType_of_mem member with void | int | ⟨g, -, same⟩
    · rw [void]
      decide
    · rw [int]
      decide
    · rw [same]
      exact isIdentifier_name g
  rw [Document.functionFault?, isBlankText_of_isIdentifier (isIdentifier_symbol member),
    isBlankText_of_isIdentifier returned]
  rfl

/-- Days and sentinels differ in their first letter. -/
theorem head?_constant (f : Family) :
    (∀ c ∈ f.days, c.name.toList.head? = some 'E') ∧ f.sentinel.name.toList.head? = some '_' := by
  have stems : ∀ f ∈ Family.all, f.constantStem.toList.head? = some 'E' := by decide
  have sentinels : ∀ f ∈ Family.all, f.sentinel.name.toList.head? = some '_' := by decide
  refine ⟨?_, sentinels f f.mem_all⟩
  simp only [Family.days, List.forall_mem_cons, String.toList_append, List.head?_append,
    stems f f.mem_all, Option.some_or]
  simp

theorem constants_names_nodup (f : Family) : (f.constants.map (·.name)).Nodup := by
  have days : f.days.map (·.name) = ["_DAY_UNKNOWN", "_DAY_MONDAY", "_DAY_TUESDAY",
      "_DAY_WEDNESDAY", "_DAY_THURSDAY", "_DAY_FRIDAY"].map (f.constantStem ++ ·) := rfl
  have distinct : (f.days.map (·.name)).Nodup := by
    rw [days]
    exact .map (fun a b same => (String.append_right_inj _).1 same) (by decide)
  rw [Family.constants, List.map_append, List.map_singleton, List.nodup_append]
  refine ⟨distinct, List.nodup_singleton _, fun day left sentinel right same => ?_⟩
  obtain ⟨c, member, rfl⟩ := List.mem_map.1 left
  rw [List.mem_singleton.1 right] at same
  have letters := (head?_constant f).1 c member
  rw [same, (head?_constant f).2] at letters
  cases letters

theorem enumFault?_entryOf (f : Family) :
    Document.enumFault? f.name (entryOf f).enumDecl = none := by
  have filled : (entryOf f).enumDecl.values.isEmpty = false := rfl
  have sized : (entryOf f).enumDecl.integerType.size ≠ 0 := by
    have table : ∀ f ∈ Family.all, UInt64.ofNat f.integerType.size ≠ 0 := by decide
    exact table f f.mem_all
  have blank : ∀ c ∈ f.constants, isBlankText c.name = false := by
    intro c member
    obtain ⟨letter, first, visible⟩ :
        ∃ letter, c.name.toList.head? = some letter ∧ isBlank letter = false := by
      rcases List.mem_append.1 member with day | sentinel
      · exact ⟨'E', (head?_constant f).1 c day, by decide⟩
      · rw [List.mem_singleton.1 sentinel]
        exact ⟨'_', (head?_constant f).2, by decide⟩
    rw [isBlankText, List.all_eq_false]
    exact ⟨letter, List.mem_of_head? first, by rw [visible]; exact Bool.false_ne_true⟩
  have values : Document.valuesFault? f.name [] f.constants = none :=
    (Document.valuesFault?_eq_none_iff _ _ _).2
      ⟨blank, constants_names_nodup f, fun _ _ => List.not_mem_nil⟩
  rw [Document.enumFault?, isBlankText_of_isIdentifier (isIdentifier_name f),
    if_neg Bool.false_ne_true, if_neg (Bool.eq_false_iff.1 filled), if_neg sized]
  exact values

end Validity

section Types

variable (p : Platform) (x : ExclusionList)

theorem find?_enums_name (f : Family) : (document p x).enums.find? f.name =
    if x.excludes f.name then none else some (entryOf f).enumDecl := by
  cases excluded : x.excludes f.name with
  | true =>
    rw [if_pos rfl, Option.eq_none_iff_forall_ne_some]
    intro decl found
    obtain ⟨g, kept, same, -⟩ := (find?_enums_eq_some_iff p x f.name decl).1 found
    rw [← same, excluded] at kept
    cases kept
  | false =>
    rw [if_neg Bool.false_ne_true, find?_enums_eq_some_iff]
    exact ⟨f, excluded, rfl, rfl⟩

theorem find?_opaqueTypes_aggregateName : (document p x).opaqueTypes.find? aggregateName =
    if x.excludes aggregateName then none else some (aggregateDecl p) := by
  cases excluded : x.excludes aggregateName with
  | true =>
    rw [if_pos rfl, Option.eq_none_iff_forall_ne_some]
    intro decl found
    have kept := ((find?_opaqueTypes_eq_some_iff p x aggregateName decl).1 found).1
    rw [excluded] at kept
    cases kept
  | false =>
    rw [if_neg Bool.false_ne_true, find?_opaqueTypes_eq_some_iff]
    exact ⟨excluded, rfl, rfl⟩

theorem mem_names_enums_iff (name : String) : name ∈ (document p x).enums.names ↔
    ∃ f : Family, x.excludes f.name = false ∧ name = f.name := by
  simp only [NameMap.mem_names_iff, find?_enums_eq_some_iff]
  exact ⟨fun ⟨_, f, kept, same, _⟩ => ⟨f, kept, same⟩,
    fun ⟨f, kept, same⟩ => ⟨_, f, kept, same, rfl⟩⟩

theorem mem_names_opaqueTypes_iff (name : String) : name ∈ (document p x).opaqueTypes.names ↔
    x.excludes aggregateName = false ∧ name = aggregateName := by
  simp only [NameMap.mem_names_iff, find?_opaqueTypes_eq_some_iff]
  exact ⟨fun ⟨_, kept, same, _⟩ => ⟨kept, same⟩, fun ⟨kept, same⟩ => ⟨_, kept, same, rfl⟩⟩

theorem mem_excluded_iff (name : String) :
    name ∈ (document p x).excluded ↔ name ∈ typeNames ∧ x.excludes name = true := by
  have aggregate : name ∈ (if x.excludes aggregateName then [aggregateName] else []) ↔
      name = aggregateName ∧ x.excludes name = true := by
    split
    · rename_i excluded
      rw [List.mem_singleton]
      exact ⟨fun same => ⟨same, same ▸ excluded⟩, And.left⟩
    · rename_i kept
      exact iff_of_false List.not_mem_nil fun ⟨same, excluded⟩ => kept (same ▸ excluded)
  rw [document, mem_sortedNames, List.mem_append, aggregate, typeNames, List.mem_append,
    List.mem_singleton, or_and_right]
  refine or_congr_left ?_
  simp only [withheldEntries, List.mem_map, List.mem_filter]
  constructor
  · rintro ⟨e, ⟨entry, excluded⟩, rfl⟩
    exact ⟨⟨e, entry, rfl⟩, excluded⟩
  · rintro ⟨⟨e, entry, rfl⟩, excluded⟩
    exact ⟨e, ⟨entry, excluded⟩, rfl⟩

/-- The type that a declared function belongs to is declared. -/
theorem owner_declared {f : OwnedFunction} (member : f ∈ ownedFunctions) (kept : f.Kept x) :
    f.owner ∈ (document p x).enums.names ∨ f.owner ∈ (document p x).opaqueTypes.names := by
  rcases (mem_ownedFunctions_iff f).1 member with ⟨g, owned, -⟩ | ⟨owned, -⟩
  · exact .inl ((mem_names_enums_iff p x _).2 ⟨g, owned ▸ kept.1, owned⟩)
  · exact .inr ((mem_names_opaqueTypes_iff p x _).2 ⟨owned ▸ kept.1, owned⟩)

theorem document_valid : (document p x).validate = .ok () := by
  rw [Document.validate_eq_ok_iff]
  intro name decl declared
  cases decl with
  | enum decl =>
    have found := (enum_mem_declarationsIn _ _ _ _ _).1 declared
    obtain ⟨f, -, rfl, rfl⟩ := (find?_enums_eq_some_iff p x name decl).1 found
    exact enumFault?_entryOf f
  | function decl =>
    have found := (function_mem_declarationsIn _ _ _ _ _).1 declared
    obtain ⟨f, member, rfl, rfl, -⟩ := (find?_functions_eq_some_iff_owned p x name decl).1 found
    exact functionFault?_of_mem member
  | opaqueType decl =>
    have found := (opaqueType_mem_declarationsIn _ _ _ _ _).1 declared
    obtain ⟨-, rfl, rfl⟩ := (find?_opaqueTypes_eq_some_iff p x name decl).1 found
    cases p <;> decide

end Types

end Catalog

open Catalog in
/-- For every platform and all exclusions, the document of the platform divides the catalog into
what it declares and what it lists as excluded. It refers to no type that it does not declare, and
it is valid. -/
theorem document_divides_catalog (p : Platform) (x : ExclusionList) :
    Divided p x (document p x) where
  enum := by
    intro e entry
    obtain ⟨f, rfl⟩ := (mem_entries_iff e).1 entry
    refine ⟨find?_enums_name p x f, ?_⟩
    rw [mem_excluded_iff]
    exact and_iff_right (List.mem_append_left _ (List.mem_map_of_mem entry))
  aggregate := by
    refine ⟨find?_opaqueTypes_aggregateName p x, ?_⟩
    rw [mem_excluded_iff]
    exact and_iff_right (List.mem_append_right _ List.mem_cons_self)
  function := fun _ member => find?_functions_of_mem p x member
  onlyEnums := by
    intro name listed
    obtain ⟨f, -, rfl⟩ := (mem_names_enums_iff p x name).1 listed
    exact name_mem_entries f
  onlyAggregate := fun name listed => ((mem_names_opaqueTypes_iff p x name).1 listed).2
  onlyFunctions := by
    intro symbol listed
    obtain ⟨decl, found⟩ := (NameMap.mem_names_iff _ symbol).1 listed
    obtain ⟨f, member, rfl, -⟩ := (find?_functions_eq_some_iff_owned p x symbol decl).1 found
    exact List.mem_map_of_mem member
  onlyExcluded := fun name listed => ((mem_excluded_iff p x name).1 listed).1
  excludedIncreasing := sortedNames_sorted _
  parameters := by
    intro symbol decl found q member
    obtain ⟨f, owned, rfl, rfl, kept⟩ := (find?_functions_eq_some_iff_owned p x symbol decl).1 found
    have type : q.type ∈ f.decl.parameters.map (·.type) := List.mem_map_of_mem member
    rw [parameters_of_mem owned] at type
    rw [List.mem_singleton.1 type]
    exact owner_declared p x owned kept
  returns := by
    intro symbol decl found
    obtain ⟨f, owned, rfl, rfl, kept⟩ := (find?_functions_eq_some_iff_owned p x symbol decl).1 found
    rcases returnType_of_mem owned with void | int | ⟨g, -, returned⟩
    · exact .inl void
    · exact .inr (.inl int)
    · refine .inr (.inr ((mem_names_enums_iff p x _).2 ⟨g, ?_, returned⟩))
      rw [← returned]
      exact kept.2.2
  valid := document_valid p x

end HeaderBindings
