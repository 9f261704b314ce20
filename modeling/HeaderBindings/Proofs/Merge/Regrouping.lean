import HeaderBindings.Proofs.Merge.Outcome

/-!
# Merging in another order and in stages

The merge takes the first document as its base. Still it depends on the order of the
documents only in the locations that it keeps and in the order or choice of what a
reason lists, and merging the results of two merges keeps what merging all documents at
once keeps, locations included. Both rest on `definitions_eq_singleton_iff`: a definition
is kept if and only if it is the only one in every document, a condition that names no
first document.
-/

namespace HeaderBindings

/-- A document on some platform that has the declarations of a shared document. -/
structure Document.Restates (d : Document) (shared : SharedDocument) : Prop where
  known : d.isUnknownPlatform = false
  enums : d.enums = shared.enums
  functions : d.functions = shared.functions
  opaqueTypes : d.opaqueTypes = shared.opaqueTypes

theorem Document.Restates.declarationsOf_eq {d : Document} {shared : SharedDocument}
    (restates : d.Restates shared) (name : String) :
    d.declarationsOf name = shared.declarationsOf name := by
  rw [declarationsOf, SharedDocument.declarationsOf, restates.enums, restates.functions,
    restates.opaqueTypes]

/-- The document that restates a shared document on a platform. -/
def SharedDocument.onPlatform (shared : SharedDocument) (p : Platform) : Document :=
  { Document.empty with
    platformRequested := some p
    enums := shared.enums
    functions := shared.functions
    opaqueTypes := shared.opaqueTypes }

theorem SharedDocument.onPlatform_restates (shared : SharedDocument) (p : Platform) :
    (shared.onPlatform p).Restates shared :=
  ⟨rfl, rfl, rfl, rfl⟩

namespace Merge

section Definitions

variable {documents : List Document} {result : MergeOutcome} {name : String}

/-- What a merge keeps under a name, told without a first document. -/
theorem definitions_eq_singleton_iff (success : merge documents = .ok result) (definition : Decl) :
    (result.document.declarationsOf name).map Decl.definition = [definition] ↔
      ∀ d ∈ merged documents, d.definitionsOf name = [definition] := by
  obtain ⟨first, rest, split⟩ := List.exists_cons_of_ne_nil (eq_outcome_of_merge success).1
  have firstMember : first ∈ merged documents := split ▸ List.mem_cons_self
  have shared : Agreed (merged documents) name ↔
      ∃ common, ∀ d ∈ merged documents, d.definitionsOf name = [common] :=
    agreed_iff_definition (eq_outcome_of_merge success).1
  by_cases agreed : Agreed (merged documents) name
  · rw [declarationsOf_of_agreed success split agreed]
    obtain ⟨common, allCommon⟩ := shared.1 agreed
    have firstCommon : (first.declarationsOf name).map Decl.definition = [common] :=
      allCommon first firstMember
    rw [firstCommon]
    constructor
    · intro same d member
      rw [← same, allCommon d member]
    · intro all
      rw [← allCommon first firstMember, all first firstMember]
  · rw [declarationsOf_of_not_agreed success agreed]
    exact iff_of_false (by simp) fun all => agreed (shared.2 ⟨definition, all⟩)

/-- A kept declaration is the only one of its name. -/
theorem definitions_eq_nil_or_singleton (success : merge documents = .ok result) (name : String) :
    (result.document.declarationsOf name).map Decl.definition = [] ∨
      ∃ definition, (result.document.declarationsOf name).map Decl.definition = [definition] := by
  by_cases agreed : Agreed (merged documents) name
  · have single := (declarationsOf_length_eq_one_iff success).2 agreed
    obtain ⟨decl, declEq⟩ := List.length_eq_one_iff.1 single
    exact .inr ⟨decl.definition, by rw [declEq, List.map_singleton]⟩
  · exact .inl (by rw [declarationsOf_of_not_agreed success agreed, List.map_nil])

/-- A document that restates a merge has a definition if and only if all merged documents do. -/
theorem definitionsOf_eq_singleton_iff (success : merge documents = .ok result) {d : Document}
    (restates : d.Restates result.document) (definition : Decl) :
    d.definitionsOf name = [definition] ↔
      ∀ e ∈ merged documents, e.definitionsOf name = [definition] := by
  rw [Document.definitionsOf, restates.declarationsOf_eq, definitions_eq_singleton_iff success]

end Definitions

section Permuted

variable {documents others : List Document} {result other : MergeOutcome}
  (same : ∀ d, d ∈ merged documents ↔ d ∈ merged others)
  (success : merge documents = .ok result) (otherSuccess : merge others = .ok other)
include same success otherSuccess

theorem platforms_congr : result.document.platforms = other.document.platforms := by
  obtain ⟨-, rfl⟩ := eq_outcome_of_merge success
  obtain ⟨-, rfl⟩ := eq_outcome_of_merge otherSuccess
  rw [platforms_outcome, platforms_outcome]
  refine eq_of_increasing (fun p q below above => Nat.lt_asymm below above)
    (platforms_increasing _) (platforms_increasing _) fun p => ?_
  rw [mem_platforms_sources_iff, mem_platforms_sources_iff]
  simp only [same]

/-- The kept definitions do not depend on the order of the documents. -/
theorem withoutLocations_congr :
    result.document.withoutLocations = other.document.withoutLocations := by
  refine SharedDocument.ext_declarationsOf (platforms_congr same success otherSuccess) ?_
  intro name
  have transfer : ∀ definition,
      (result.document.declarationsOf name).map Decl.definition = [definition] ↔
        (other.document.declarationsOf name).map Decl.definition = [definition] := by
    intro definition
    rw [definitions_eq_singleton_iff success, definitions_eq_singleton_iff otherSuccess]
    simp only [same]
  rw [SharedDocument.declarationsOf_withoutLocations,
    SharedDocument.declarationsOf_withoutLocations]
  rcases definitions_eq_nil_or_singleton success name with nothing | ⟨definition, kept⟩
  · rcases definitions_eq_nil_or_singleton otherSuccess name with
      otherNothing | ⟨definition, otherKept⟩
    · rw [nothing, otherNothing]
    · rw [otherKept, (transfer definition).2 otherKept]
  · rw [kept, (transfer definition).1 kept]

theorem names_dropped_congr : result.dropped.map (·.name) = other.dropped.map (·.name) := by
  have sorted : ∀ {list : List Document} {outcome : MergeOutcome}, merge list = .ok outcome →
      (outcome.dropped.map (·.name)).Pairwise (· < ·) := by
    intro list outcome merges
    rw [(eq_outcome_of_merge merges).2, List.pairwise_map]
    exact dropped_sorted _
  refine eq_of_increasing (fun _ _ => String.lt_asymm) (sorted success) (sorted otherSuccess)
    fun name => ?_
  rw [mem_names_dropped_iff success, mem_names_dropped_iff otherSuccess, declared_congr same,
    agreed_congr same]

end Permuted

section Staged

variable {documents others : List Document} {result other : MergeOutcome} {left right : Document}
  {name : String} (success : merge documents = .ok result)
  (leftRestates : left.Restates result.document)
include success leftRestates

/-- A name that a restated merge declares was shared by the documents of that merge. -/
theorem agreed_of_definitionsOf {definition : Decl}
    (defined : left.definitionsOf name = [definition]) : Agreed (merged documents) name :=
  (agreed_iff_definition (eq_outcome_of_merge success).1).2
    ⟨definition, (definitionsOf_eq_singleton_iff success leftRestates definition).1 defined⟩

/-- Two stages share a name if and only if all their documents together share it. -/
theorem agreed_stages_iff (otherSuccess : merge others = .ok other)
    (rightRestates : right.Restates other.document) :
    Agreed [left, right] name ↔ Agreed (merged documents ++ merged others) name := by
  have nonempty : merged documents ++ merged others ≠ [] :=
    List.append_ne_nil_of_left_ne_nil (eq_outcome_of_merge success).1 _
  rw [agreed_iff_definition (List.cons_ne_nil left [right]), agreed_iff_definition nonempty]
  simp only [List.forall_mem_cons, List.forall_mem_append, List.not_mem_nil, false_imp_iff,
    implies_true, and_true, definitionsOf_eq_singleton_iff success leftRestates,
    definitionsOf_eq_singleton_iff otherSuccess rightRestates]

end Staged

end Merge

open Merge in
/-- The order of the documents decides neither whether a merge succeeds nor which names it keeps or
drops. Only the locations of what is kept, the order of the kinds and the platforms of differing
definitions may change. -/
theorem merge_perm (documents others : List Document) (perm : documents.Perm others) :
    (∃ error, merge documents = .error error ∧ merge others = .error error) ∨
    ∃ result other, merge documents = .ok result ∧ merge others = .ok other ∧
      result.document.platforms = other.document.platforms ∧
      result.document.withoutLocations = other.document.withoutLocations ∧
      result.dropped.map (·.name) = other.dropped.map (·.name) ∧
      ∀ name reason otherReason, ⟨name, reason⟩ ∈ result.dropped →
        ⟨name, otherReason⟩ ∈ other.dropped → reason.Alike otherReason := by
  have mergedPerm : (merged documents).Perm (merged others) := perm.filter _
  have same : ∀ d, d ∈ merged documents ↔ d ∈ merged others := fun d => mergedPerm.mem_iff
  by_cases none : merged documents = []
  · have otherNone : merged others = [] := (none ▸ mergedPerm).nil_eq.symm
    exact .inl ⟨_, by rw [merge_eq, if_pos none], by rw [merge_eq, if_pos otherNone]⟩
  · have otherSome : merged others ≠ [] := fun otherNone => none (otherNone ▸ mergedPerm).eq_nil
    have success := merge_eq_ok none
    have otherSuccess := merge_eq_ok otherSome
    have platforms := platforms_congr same success otherSuccess
    refine .inr ⟨_, _, success, otherSuccess, platforms,
      withoutLocations_congr same success otherSuccess,
      names_dropped_congr same success otherSuccess, fun name reason otherReason left right => ?_⟩
    have explained := ((mem_dropped_iff success reason).1 left).2
    have otherExplained := ((mem_dropped_iff otherSuccess otherReason).1 right).2
    rw [← platforms] at otherExplained
    exact explained.alike same otherExplained

/-- Exchanging two documents exchanges the kinds that a reason lists. -/
theorem merge_perm_samples :
    [linuxSample, windowsSample].Perm [windowsSample, linuxSample] ∧
    ∃ result other, merge [linuxSample, windowsSample] = .ok result ∧
      merge [windowsSample, linuxSample] = .ok other ∧
      result.document.withoutLocations = other.document.withoutLocations ∧
      ⟨"run", .kindMismatch [.function, .opaqueType]⟩ ∈ result.dropped ∧
      ⟨"run", .kindMismatch [.opaqueType, .function]⟩ ∈ other.dropped ∧
      (DropReason.kindMismatch [.function, .opaqueType]).Alike
        (.kindMismatch [.opaqueType, .function]) := by
  have perm : [linuxSample, windowsSample].Perm [windowsSample, linuxSample] := .swap _ _ _
  have success : merge [linuxSample, windowsSample] =
      .ok (Merge.outcome (Merge.sources [linuxSample, windowsSample])) := rfl
  have otherSuccess : merge [windowsSample, linuxSample] =
      .ok (Merge.outcome (Merge.sources [windowsSample, linuxSample])) := rfl
  refine ⟨perm, ?_⟩
  rcases merge_perm _ _ perm with ⟨error, failed, -⟩ |
    ⟨result, other, merged, otherMerged, -, definitions, -, alike⟩
  · rw [success] at failed
    cases failed
  · have dropped : ⟨"run", .kindMismatch [.function, .opaqueType]⟩ ∈ result.dropped := by
      rw [← Except.ok.inj (success.symm.trans merged)]
      decide
    have otherDropped : ⟨"run", .kindMismatch [.opaqueType, .function]⟩ ∈ other.dropped := by
      rw [← Except.ok.inj (otherSuccess.symm.trans otherMerged)]
      decide
    exact ⟨result, other, merged, otherMerged, definitions, dropped, otherDropped,
      alike _ _ _ dropped otherDropped⟩

open Merge in
/-- Merging two lists of documents and then the two results keeps the same declarations as merging
all documents at once, with the same locations. -/
theorem merge_in_stages {documents others : List Document} {result other : MergeOutcome}
    {left right : Document} (success : merge documents = .ok result)
    (otherSuccess : merge others = .ok other) (leftRestates : left.Restates result.document)
    (rightRestates : right.Restates other.document) :
    ∃ staged flat, merge [left, right] = .ok staged ∧ merge (documents ++ others) = .ok flat ∧
      staged.document.enums = flat.document.enums ∧
      staged.document.functions = flat.document.functions ∧
      staged.document.opaqueTypes = flat.document.opaqueTypes := by
  have stages : merged [left, right] = [left, right] := by
    simp [merged, leftRestates.known, rightRestates.known]
  have together : merged (documents ++ others) = merged documents ++ merged others :=
    List.filter_append ..
  obtain ⟨first, rest, split⟩ := List.exists_cons_of_ne_nil (eq_outcome_of_merge success).1
  have flatSplit : merged (documents ++ others) = first :: (rest ++ merged others) := by
    rw [together, split, List.cons_append]
  have staged := merge_eq_ok (stages ▸ List.cons_ne_nil left [right])
  have flat := merge_eq_ok (flatSplit ▸ List.cons_ne_nil first _)
  refine ⟨_, _, staged, flat, ext_declarationsIn fun name => ?_⟩
  change (outcome _).document.declarationsOf name = (outcome _).document.declarationsOf name
  have agreement : Agreed (merged [left, right]) name ↔
      Agreed (merged (documents ++ others)) name := by
    rw [stages, together]
    exact agreed_stages_iff success leftRestates otherSuccess rightRestates
  by_cases agreed : Agreed (merged [left, right]) name
  · obtain ⟨decl, declEq⟩ := agreed.declarationsOf_eq (stages ▸ List.mem_cons_self)
    have stageAgreed := agreed_of_definitionsOf success leftRestates
      (Document.definitionsOf_of_singleton declEq)
    calc (outcome (sources [left, right])).document.declarationsOf name
        = left.declarationsOf name := declarationsOf_of_agreed staged stages agreed
      _ = result.document.declarationsOf name := leftRestates.declarationsOf_eq name
      _ = first.declarationsOf name := declarationsOf_of_agreed success split stageAgreed
      _ = (outcome (sources (documents ++ others))).document.declarationsOf name :=
        (declarationsOf_of_agreed flat flatSplit (agreement.1 agreed)).symm
  · rw [declarationsOf_of_not_agreed staged agreed,
      declarationsOf_of_not_agreed flat fun flatAgreed => agreed (agreement.2 flatAgreed)]

/-- A stage that drops three of four names, followed by one that drops nothing. -/
theorem merge_in_stages_samples :
    ∃ result other, merge [linuxSample, windowsSample] = .ok result ∧
      merge [windowsSample] = .ok other ∧
      result.document.enums.names = ["Day"] ∧ other.document.opaqueTypes.names = ["Handle", "run"] ∧
      ∃ staged flat,
        merge [result.document.onPlatform .linux, other.document.onPlatform .windows] = .ok staged ∧
        merge [linuxSample, windowsSample, windowsSample] = .ok flat ∧
        staged.document.enums = flat.document.enums ∧
        staged.document.functions = flat.document.functions ∧
        staged.document.opaqueTypes = flat.document.opaqueTypes := by
  have success : merge [linuxSample, windowsSample] =
      .ok (Merge.outcome (Merge.sources [linuxSample, windowsSample])) := rfl
  have otherSuccess : merge [windowsSample] =
      .ok (Merge.outcome (Merge.sources [windowsSample])) := rfl
  exact ⟨_, _, success, otherSuccess, by decide, by decide,
    merge_in_stages success otherSuccess (SharedDocument.onPlatform_restates _ .linux)
      (SharedDocument.onPlatform_restates _ .windows)⟩

end HeaderBindings
