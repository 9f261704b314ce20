import HeaderBindings.Proofs.Catalog.Division
import HeaderBindings.Proofs.Merge.Outcome

/-!
# Merging the documents of the catalog

Under the same exclusions the documents of two platforms differ in the size of the aggregate
and in nothing else. A merge of such documents therefore keeps everything else that they
declare, and it drops the aggregate if and only if two of the platforms are different
(`merge_catalog_documents`).

Two facts carry this. In documents of the catalog a name decides the kind of its declaration
(`kind_eq_kindOf`), so a name never stands for two declarations; and a name that all
documents declare alike is kept as it is (`declarationsOf_of_alike`).
-/

namespace HeaderBindings

open HeaderBindings.Artifact

namespace Merge

section Alike

variable {documents : List Document} {result : MergeOutcome} {first : Document}
  {rest : List Document} {name : String} (split : merged documents = first :: rest)
  (alike : ∀ d ∈ merged documents, d.declarationsOf name = first.declarationsOf name)
  (single : (first.declarationsOf name).length ≤ 1)
include split alike single

/-- A name that all documents declare alike, and at least once, is shared. -/
theorem agreed_of_alike (declared : first.declarationsOf name ≠ []) :
    Agreed (merged documents) name := by
  have one : (first.declarationsOf name).length = 1 := by
    have some := List.length_pos_iff.2 declared
    omega
  obtain ⟨decl, declEq⟩ := List.length_eq_one_iff.1 one
  rw [agreed_iff_definition (split ▸ List.cons_ne_nil first rest)]
  refine ⟨decl.definition, fun d member => ?_⟩
  have same : d.declarationsOf name = [decl] := (alike d member).trans declEq
  exact Document.definitionsOf_of_singleton same

theorem declarationsOf_of_alike (success : merge documents = .ok result) :
    result.document.declarationsOf name = first.declarationsOf name := by
  by_cases declared : first.declarationsOf name = []
  · have disagreed : ¬ Agreed (merged documents) name := by
      intro agreed
      exact agreed.everywhere first (split ▸ List.mem_cons_self) declared
    rw [declarationsOf_of_not_agreed success disagreed, declared]
  · have agreed := agreed_of_alike split alike single declared
    exact declarationsOf_of_agreed success split agreed

theorem not_dropped_of_alike (success : merge documents = .ok result) :
    name ∉ result.dropped.map (·.name) := by
  intro dropped
  obtain ⟨⟨d, member, declared⟩, disagreed⟩ := (mem_names_dropped_iff success).1 dropped
  rw [alike d member] at declared
  exact disagreed (agreed_of_alike split alike single declared)

end Alike

end Merge

namespace Catalog

section Kinds

/-- The kind as which a document of the catalog declares a name, if it does. -/
def kindOf (name : String) : Kind :=
  if name = aggregateName then .opaqueType
  else if name ∈ entries.map (·.name) then .enum
  else .function

/-- The functions of an enum have two adjacent underscores in their names, and no type has. -/
theorem hasDoubleUnderscore_function (f : Family) {function : String × FunctionDecl}
    (member : function ∈ (entryOf f).functions) :
    Exclusion.hasDoubleUnderscore function.1.toList = true := by
  have spelled : ∀ verb : String,
      Exclusion.hasDoubleUnderscore (f.name ++ ("__" ++ verb) ++ f.name).toList = true := by
    intro verb
    have letters : (f.name ++ ("__" ++ verb) ++ f.name).toList =
        f.name.toList ++ '_' :: '_' :: (verb.toList ++ f.name.toList) := by simp
    rw [letters]
    exact Exclusion.hasDoubleUnderscore_append _ _
  simp only [CatalogEntry.functions, List.mem_cons, List.not_mem_nil, or_false] at member
  rcases member with rfl | rfl
  · exact spelled "print_"
  · change Exclusion.hasDoubleUnderscore f.returnSymbol.toList = true
    unfold Family.returnSymbol
    split
    · decide
    · exact spelled "return_"

theorem symbol_not_mem_typeNames {f : OwnedFunction} (member : f ∈ ownedFunctions) :
    f.symbol ∉ typeNames := by
  have single : ∀ name ∈ typeNames, Exclusion.hasDoubleUnderscore name.toList = false := by
    intro name listed
    rcases List.mem_append.1 listed with entry | aggregate
    · obtain ⟨e, inside, rfl⟩ := List.mem_map.1 entry
      obtain ⟨g, rfl⟩ := (mem_entries_iff e).1 inside
      exact (plain_name g).single
    · rw [List.mem_singleton.1 aggregate]
      decide
  rcases (mem_ownedFunctions_iff f).1 member with ⟨g, -, inside⟩ | ⟨-, inside⟩
  · intro listed
    have double := hasDoubleUnderscore_function g inside
    rw [single f.symbol listed] at double
    cases double
  · rw [show f.symbol = totalSymbol from congrArg Prod.fst inside]
    decide

variable (p : Platform) (x : ExclusionList)

theorem kind_eq_kindOf {name : String} {decl : Decl}
    (declared : decl ∈ (document p x).declarationsOf name) : decl.kind = kindOf name := by
  cases decl with
  | enum decl =>
    have found := (enum_mem_declarationsIn _ _ _ _ _).1 declared
    obtain ⟨f, -, rfl, -⟩ := (find?_enums_eq_some_iff p x name decl).1 found
    have listed := name_mem_entries f
    have other : f.name ≠ aggregateName := by
      intro same
      exact absurd (same ▸ listed) (by decide)
    rw [kindOf, if_neg other, if_pos listed]
    rfl
  | function decl =>
    have found := (function_mem_declarationsIn _ _ _ _ _).1 declared
    obtain ⟨f, member, rfl, -⟩ := (find?_functions_eq_some_iff_owned p x name decl).1 found
    have absent := symbol_not_mem_typeNames member
    rw [typeNames, List.mem_append, List.mem_singleton, not_or] at absent
    rw [kindOf, if_neg absent.2, if_neg absent.1]
    rfl
  | opaqueType decl =>
    have found := (opaqueType_mem_declarationsIn _ _ _ _ _).1 declared
    obtain ⟨-, rfl, -⟩ := (find?_opaqueTypes_eq_some_iff p x name decl).1 found
    rw [kindOf, if_pos rfl]
    rfl

theorem declarationsOf_length_le_one (name : String) :
    ((document p x).declarationsOf name).length ≤ 1 := by
  apply declarationsIn_length_le_one
  intro a left b right
  rw [kind_eq_kindOf p x left, kind_eq_kindOf p x right]

end Kinds

section Platforms

variable (x : ExclusionList)

theorem find?_opaqueTypes_eq_none (p : Platform) {name : String}
    (other : x.excludes aggregateName = true ∨ name ≠ aggregateName) :
    (document p x).opaqueTypes.find? name = none := by
  rw [Option.eq_none_iff_forall_ne_some]
  intro decl found
  obtain ⟨kept, same, -⟩ := (find?_opaqueTypes_eq_some_iff p x name decl).1 found
  rcases other with excluded | different
  · rw [excluded] at kept
    cases kept
  · exact different same

/-- The documents of two platforms differ at most in the aggregate. -/
theorem declarationsOf_congr (p q : Platform) {name : String}
    (other : x.excludes aggregateName = true ∨ name ≠ aggregateName) :
    (document p x).declarationsOf name = (document q x).declarationsOf name := by
  unfold Document.declarationsOf declarationsIn
  rw [find?_opaqueTypes_eq_none x p other, find?_opaqueTypes_eq_none x q other]
  rfl

/-- Without its opaque types a document of the catalog loses the aggregate and nothing else. -/
theorem declarationsIn_withoutOpaqueTypes (p : Platform) (name : String) :
    declarationsIn (document p x).enums (document p x).functions .empty name =
      if name = aggregateName then [] else (document p x).declarationsOf name := by
  by_cases aggregate : name = aggregateName
  · rw [if_pos aggregate, List.eq_nil_iff_forall_not_mem]
    intro decl declared
    have opaqueKind : kindOf name = .opaqueType := if_pos aggregate
    cases decl with
    | enum decl =>
      have found := (enum_mem_declarationsIn _ _ _ _ _).1 declared
      have kind := kind_eq_kindOf p x ((enum_mem_declarationsIn _ _ _ _ _).2 found)
      rw [opaqueKind] at kind
      cases kind
    | function decl =>
      have found := (function_mem_declarationsIn _ _ _ _ _).1 declared
      have kind := kind_eq_kindOf p x ((function_mem_declarationsIn _ _ _ _ _).2 found)
      rw [opaqueKind] at kind
      cases kind
    | opaqueType decl => cases (opaqueType_mem_declarationsIn _ _ _ _ _).1 declared
  · rw [if_neg aggregate, Document.declarationsOf, declarationsIn, declarationsIn,
      find?_opaqueTypes_eq_none x p (.inr aggregate), NameMap.find?_empty]

variable {x} (kept : x.excludes aggregateName = false)
include kept

theorem declarationsOf_aggregateName (p : Platform) :
    (document p x).declarationsOf aggregateName = [.opaqueType (aggregateDecl p)] := by
  have declared : .opaqueType (aggregateDecl p) ∈ (document p x).declarationsOf aggregateName := by
    apply (opaqueType_mem_declarationsIn _ _ _ _ _).2
    rw [find?_opaqueTypes_eq_some_iff]
    exact ⟨kept, rfl, rfl⟩
  have short := declarationsOf_length_le_one p x aggregateName
  generalize (document p x).declarationsOf aggregateName = decls at declared short
  match decls, short with
  | [decl], _ => rw [List.mem_singleton.1 declared]

/-- The size of the aggregate tells the platforms apart. -/
theorem definitionsOf_aggregateName_eq_iff (p q : Platform) :
    (document p x).definitionsOf aggregateName = (document q x).definitionsOf aggregateName ↔
      p = q := by
  have sizes : ∀ p q : Platform,
      UInt64.ofNat p.aggregateSize = UInt64.ofNat q.aggregateSize → p = q := by
    intro p q same
    cases p <;> cases q <;> first | rfl | exact absurd same (by decide)
  rw [Document.definitionsOf, Document.definitionsOf, declarationsOf_aggregateName kept,
    declarationsOf_aggregateName kept]
  constructor
  · intro same
    injection same with same
    injection same with same
    exact sizes p q (congrArg OpaqueDecl.size same)
  · rintro rfl
    rfl

end Platforms

section Merged

open Merge

variable {x : ExclusionList} {head : Platform} {rest : List Platform}

theorem merged_documents (ps : List Platform) :
    merged (ps.map (document · x)) = ps.map (document · x) := by
  apply List.filter_eq_self.2
  intro d member
  obtain ⟨p, -, rfl⟩ := List.mem_map.1 member
  rfl

theorem merge_documents (x : ExclusionList) (head : Platform) (rest : List Platform) :
    ∃ result, merge ((head :: rest).map (document · x)) = .ok result :=
  ⟨_, merge_eq_ok (by rw [merged_documents]; exact List.cons_ne_nil _ _)⟩

/-- The aggregate is dropped for the platforms whose size of it is not that of the first. -/
theorem explains_aggregate (kept : x.excludes aggregateName = false)
    (different : ¬ ∀ p ∈ rest, p = head) (platforms : List Platform) :
    Explains ((head :: rest).map (document · x)) platforms aggregateName
      (.definitionMismatch ((head :: rest).filter (· ≠ head))) := by
  refine ⟨?_, ?_, ?_, document head x, rest.map (document · x), rfl, ?_⟩
  · intro d left e right a first b second
    obtain ⟨p, -, rfl⟩ := List.mem_map.1 left
    obtain ⟨q, -, rfl⟩ := List.mem_map.1 right
    rw [kind_eq_kindOf p x first, kind_eq_kindOf q x second]
  · intro d member
    obtain ⟨p, -, rfl⟩ := List.mem_map.1 member
    rw [declarationsOf_aggregateName kept]
    exact List.cons_ne_nil _ _
  · intro none
    refine different fun p later => ?_
    have equal := List.filter_eq_nil_iff.1 none p (List.mem_cons_of_mem _ later)
    simpa using equal
  · have tests : ∀ p, decide ((document p x).definitionsOf aggregateName ≠
        (document head x).definitionsOf aggregateName) = decide (p ≠ head) := by
      intro p
      simp only [ne_eq, definitionsOf_aggregateName_eq_iff kept]
    have known : (fun p : Platform => (document p x).platform?) = some := rfl
    rw [List.filter_map, List.filterMap_map]
    simp only [Function.comp_def, tests, known, List.filterMap_some]

variable {result : MergeOutcome} (success : merge ((head :: rest).map (document · x)) = .ok result)
include success

theorem mem_platforms_iff (p : Platform) :
    p ∈ result.document.platforms ↔ p ∈ head :: rest := by
  rw [(eq_outcome_of_merge success).2, platforms_outcome, mem_platforms_sources_iff,
    merged_documents]
  constructor
  · rintro ⟨d, member, platform⟩
    obtain ⟨q, listed, rfl⟩ := List.mem_map.1 member
    rw [← Option.some.inj platform]
    exact listed
  · intro listed
    exact ⟨document p x, List.mem_map_of_mem listed, rfl⟩

theorem declarationsOf_merge {name : String} (alike : ∀ p ∈ head :: rest,
      (document p x).declarationsOf name = (document head x).declarationsOf name) :
    result.document.declarationsOf name = (document head x).declarationsOf name ∧
      name ∉ result.dropped.map (·.name) := by
  have split := merged_documents (x := x) (head :: rest)
  have same : ∀ d ∈ merged ((head :: rest).map (document · x)),
      d.declarationsOf name = (document head x).declarationsOf name := by
    intro d member
    rw [merged_documents] at member
    obtain ⟨p, listed, rfl⟩ := List.mem_map.1 member
    exact alike p listed
  have short := declarationsOf_length_le_one head x name
  exact ⟨declarationsOf_of_alike split same short success,
    not_dropped_of_alike split same short success⟩

theorem declarationsOf_merge_of_ne {name : String} (other : name ≠ aggregateName) :
    result.document.declarationsOf name = (document head x).declarationsOf name ∧
      name ∉ result.dropped.map (·.name) :=
  declarationsOf_merge success fun p _ => declarationsOf_congr x p head (.inr other)

/-- Documents that do not differ in the aggregate are kept as they are. -/
theorem merge_of_alike
    (equal : x.excludes aggregateName = true ∨ ∀ p ∈ rest, p = head) :
    (result.document.enums = (document head x).enums ∧
      result.document.functions = (document head x).functions ∧
      result.document.opaqueTypes = (document head x).opaqueTypes) ∧
    result.dropped = [] := by
  have alike : ∀ name, ∀ p ∈ head :: rest,
      (document p x).declarationsOf name = (document head x).declarationsOf name := by
    intro name p listed
    rcases equal with excluded | constant
    · exact declarationsOf_congr x p head (.inl excluded)
    · rcases List.mem_cons.1 listed with rfl | later
      · rfl
      · rw [constant p later]
  refine ⟨ext_declarationsIn fun name => (declarationsOf_merge success (alike name)).1, ?_⟩
  rw [← List.map_eq_nil_iff (f := Dropped.name), List.eq_nil_iff_forall_not_mem]
  intro name
  exact (declarationsOf_merge success (alike name)).2

section Different

variable (kept : x.excludes aggregateName = false) (different : ¬ ∀ p ∈ rest, p = head)
include kept different

theorem declarationsOf_merge_of_different (name : String) :
    result.document.declarationsOf name =
      if name = aggregateName then [] else (document head x).declarationsOf name := by
  by_cases aggregate : name = aggregateName
  · subst aggregate
    rw [if_pos rfl]
    apply declarationsOf_of_not_agreed success
    rw [merged_documents]
    exact (explains_aggregate kept different []).not_agreed
  · rw [if_neg aggregate]
    exact (declarationsOf_merge_of_ne success aggregate).1

/-- No other name is dropped, because the documents declare it alike. -/
theorem mem_dropped_of_different (name : String) (reason : DropReason) :
    ⟨name, reason⟩ ∈ result.dropped ↔ name = aggregateName ∧
      reason = .definitionMismatch ((head :: rest).filter (· ≠ head)) := by
  have explained := explains_aggregate kept different result.document.platforms
  constructor
  · intro dropped
    by_cases aggregate : name = aggregateName
    · subst aggregate
      have given := ((mem_dropped_iff success reason).1 dropped).2
      rw [merged_documents] at given
      exact ⟨rfl, given.unique explained⟩
    · have notDropped := (declarationsOf_merge_of_ne success aggregate).2
      exact absurd (List.mem_map_of_mem dropped) notDropped
  · rintro ⟨rfl, rfl⟩
    rw [mem_dropped_iff success, merged_documents]
    refine ⟨⟨document head x, List.mem_cons_self, ?_⟩, explained⟩
    rw [declarationsOf_aggregateName kept]
    exact List.cons_ne_nil _ _

/-- Documents that differ in the aggregate lose it and nothing else. -/
theorem merge_of_different :
    (result.document.enums = (document head x).enums ∧
      result.document.functions = (document head x).functions ∧
      result.document.opaqueTypes = .empty) ∧
    result.dropped =
      [⟨aggregateName, .definitionMismatch ((head :: rest).filter (· ≠ head))⟩] := by
  constructor
  · refine ext_declarationsIn fun name => ?_
    rw [declarationsIn_withoutOpaqueTypes]
    exact declarationsOf_merge_of_different success kept different name
  · have sorted : result.dropped.Pairwise fun a b => a.name < b.name := by
      rw [(eq_outcome_of_merge success).2]
      exact dropped_sorted _
    refine eq_of_increasing (fun _ _ => String.lt_asymm) sorted (List.pairwise_singleton _ _) ?_
    intro ⟨name, reason⟩
    rw [mem_dropped_of_different success kept different, List.mem_singleton, Dropped.mk.injEq]

end Different

end Merged

end Catalog

open Catalog Merge in
/-- Documents of the catalog under one exclusion list merge for all platforms, in any order and
with repetitions. Enums and functions are those of each document. The aggregate is kept if it is
excluded anyway or if the platforms are all the same; otherwise it is the only declaration that is
dropped, for the platforms that differ from the first. -/
theorem merge_catalog_documents (x : ExclusionList) (head : Platform) (rest : List Platform) :
    ∃ result, merge ((head :: rest).map (document · x)) = .ok result ∧
      result.document.platforms.Pairwise (fun p q => p.position < q.position) ∧
      (∀ p, p ∈ result.document.platforms ↔ p ∈ head :: rest) ∧
      (∀ p ∈ head :: rest, result.document.enums = (document p x).enums ∧
        result.document.functions = (document p x).functions) ∧
      if x.excludes aggregateName = true ∨ ∀ p ∈ rest, p = head then
        result.document.opaqueTypes = (document head x).opaqueTypes ∧ result.dropped = []
      else
        result.document.opaqueTypes = .empty ∧ result.dropped =
          [⟨aggregateName, .definitionMismatch ((head :: rest).filter (· ≠ head))⟩] := by
  obtain ⟨result, success⟩ := merge_documents x head rest
  have ordered : result.document.platforms.Pairwise fun p q => p.position < q.position := by
    rw [(eq_outcome_of_merge success).2, platforms_outcome]
    exact platforms_increasing _
  refine ⟨result, success, ordered, mem_platforms_iff success, ?_⟩
  -- Enums and functions are built without looking at the platform.
  have enums : ∀ p, (document p x).enums = (document head x).enums := fun _ => rfl
  have functions : ∀ p, (document p x).functions = (document head x).functions := fun _ => rfl
  simp only [enums, functions]
  split
  · rename_i equal
    obtain ⟨⟨sameEnums, sameFunctions, sameOpaqueTypes⟩, nothing⟩ := merge_of_alike success equal
    exact ⟨fun _ _ => ⟨sameEnums, sameFunctions⟩, sameOpaqueTypes, nothing⟩
  · rename_i unequal
    obtain ⟨included, different⟩ := not_or.1 unequal
    rw [Bool.not_eq_true] at included
    obtain ⟨⟨sameEnums, sameFunctions, noOpaqueTypes⟩, aggregate⟩ :=
      merge_of_different success included different
    exact ⟨fun _ _ => ⟨sameEnums, sameFunctions⟩, noOpaqueTypes, aggregate⟩

end HeaderBindings
