import HeaderBindings.Proofs.Merge.Reason

/-!
# What a merge keeps and what it drops

A merge fails only if no document has a platform. Otherwise it keeps exactly the names
that all merged documents share, each with the declaration of the first document
(`declarationsOf_of_agreed`, `declarationsOf_of_not_agreed`). Every declared name is
kept once or dropped once (`kept_add_dropped`), and the reason of a dropped name follows
from the documents by a fixed precedence (`mem_dropped_iff`).
-/

namespace HeaderBindings

/-- The place of a platform in the order of the platforms. -/
def Platform.position : Platform → Nat
  | .linux => 0
  | .macos => 1
  | .ios => 2
  | .windows => 3

namespace Merge

section Success

variable (documents : List Document)

theorem merge_eq : merge documents =
    if merged documents = [] then
      .error (.invalidDocument "no platform-specific documents to merge")
    else .ok (outcome (sources documents)) := by
  have empty : (sources documents).isEmpty ↔ merged documents = [] := by
    rw [← documents_sources, List.map_eq_nil_iff, List.isEmpty_iff]
  unfold merge
  by_cases none : merged documents = []
  · rw [if_pos none, if_pos (empty.2 none)]
  · rw [if_neg none, if_neg (fun found => none (empty.1 found))]

variable {documents}

theorem merge_eq_ok (nonempty : merged documents ≠ []) :
    merge documents = .ok (outcome (sources documents)) := by
  rw [merge_eq, if_neg nonempty]

/-- A successful merge has documents to merge and returns their outcome. -/
theorem eq_outcome_of_merge {result : MergeOutcome} (success : merge documents = .ok result) :
    merged documents ≠ [] ∧ result = outcome (sources documents) := by
  rw [merge_eq] at success
  split at success
  · cases success
  · rename_i some
    exact ⟨some, (Except.ok.inj success).symm⟩

end Success

section Platforms

theorem platforms_increasing (sources : List Source) :
    (platforms sources).Pairwise fun p q => p.position < q.position := by
  have all : Platform.all.Pairwise fun p q => p.position < q.position := by decide
  exact all.sublist List.filter_sublist

theorem mem_platforms_sources_iff (documents : List Document) (p : Platform) :
    p ∈ platforms (sources documents) ↔ ∃ d ∈ merged documents, d.platform? = some p := by
  have listed : p ∈ Platform.all := by cases p <;> decide
  have anywhere := any_sources documents p fun _ => true
  simp only [Bool.and_true] at anywhere
  rw [platforms, List.mem_filter, anywhere]
  simp [listed]

end Platforms

section Names

variable (sources : List Source) (name : String)

theorem mem_names_iff : name ∈ names sources ↔ Declared (sources.map (·.document)) name := by
  rw [names, mem_sortedNames]
  simp only [List.mem_flatMap, Document.mem_names_declarations_iff]
  simp only [Declared, List.mem_map, exists_exists_and_eq_and]

/-- Looking a name up among entries that are made from names one by one. -/
theorem lookup_filterMap {α : Type} (value? : String → Option α) (names : List String) :
    (names.filterMap fun n => (value? n).map (n, ·)).lookup name =
      if name ∈ names then value? name else none := by
  induction names with
  | nil => rfl
  | cons head rest ih =>
    by_cases same : name = head
    · subst same
      cases value : value? name <;> simp [value, ih]
    · cases value : value? head <;> simp [value, ih, same, NameMap.lookup_cons_eq]

/-- Entries that are made from names one by one stand in the order of the names. -/
theorem map_key_filterMap {α β : Type} (value? : String → Option α) (make : String → α → β)
    (key : β → String) (keyed : ∀ n value, key (make n value) = n) (names : List String) :
    (names.filterMap fun n => (value? n).map (make n)).map key =
      names.filter fun n => (value? n).isSome := by
  induction names with
  | nil => rfl
  | cons head rest ih => cases value : value? head <;> simp [value, ih, keyed]

/-- The declaration that a merge keeps under a name. -/
def survivor? : Option Decl :=
  (shared? sources name).map (·.2)

theorem shared?_eq : shared? sources name = (survivor? sources name).map (name, ·) := by
  unfold survivor? shared?
  split
  · rfl
  · cases (candidates sources name).head? <;> rfl

/-- A name that no document declares has no survivor. -/
theorem survivor?_eq_none (absent : name ∉ names sources) : survivor? sources name = none := by
  have noCandidates : candidates sources name = [] := by
    rw [mem_names_iff] at absent
    simp only [Declared, List.mem_map, not_exists, not_and, Decidable.not_not,
      forall_exists_index, and_imp, forall_apply_eq_imp_iff₂] at absent
    rw [candidates_eq, List.flatMap_eq_nil_iff]
    intro s member
    rw [absent s member, List.map_nil]
  unfold survivor? shared?
  rw [noCandidates]
  split <;> rfl

theorem declarationsOf_outcome :
    (outcome sources).document.declarationsOf name = (survivor? sources name).toList := by
  have entries : (names sources).filterMap (shared? sources) =
      (names sources).filterMap fun n => (survivor? sources n).map (n, ·) :=
    List.filterMap_congr fun n _ => shared?_eq sources n
  have keys := map_key_filterMap (survivor? sources) (fun n decl => (n, decl)) (·.1)
    (fun _ _ => rfl) (names sources)
  have distinct : (names sources).Nodup := (sortedNames_sorted _).imp String.ne_of_lt
  have blank : ∀ n, ({ SharedDocument.empty with platforms := platforms sources } :
      SharedDocument).declarationsOf n = [] := fun _ => rfl
  unfold outcome
  rw [entries, SharedDocument.declarationsOf_foldl_insert _ _ (keys ▸ distinct.filter _)
    (fun n _ => blank n), blank, lookup_filterMap, List.nil_append]
  split
  · rfl
  · rename_i absent
    rw [survivor?_eq_none sources name absent]

theorem platforms_outcome : (outcome sources).document.platforms = platforms sources :=
  SharedDocument.platforms_foldl_insert _ _

end Names

section Survivors

variable {documents : List Document} {result : MergeOutcome} {name : String}

/-- A name that all documents share keeps the declaration of the first one. -/
theorem declarationsOf_of_agreed (success : merge documents = .ok result) {first : Document}
    {rest : List Document} (split : merged documents = first :: rest)
    (agreed : Agreed (merged documents) name) :
    result.document.declarationsOf name = first.declarationsOf name := by
  obtain ⟨-, rfl⟩ := eq_outcome_of_merge success
  have kept : verdict (sources documents) name = none := by
    rw [verdict_eq_none_iff, documents_sources]
    exact agreed
  have firstMember : first ∈ merged documents := split ▸ List.mem_cons_self
  obtain ⟨decl, declEq⟩ := agreed.declarationsOf_eq firstMember
  have head : (candidates (sources documents) name).head?.map (·.decl) = some decl := by
    rw [candidates_eq, sources_eq, split]
    obtain ⟨p, platform⟩ := exists_platform_of_mem_merged documents firstMember
    simp [platform, declEq]
  rw [declarationsOf_outcome, survivor?, shared?, kept, declEq]
  simpa using congrArg Option.toList head

/-- Any other name is not kept as any kind. -/
theorem declarationsOf_of_not_agreed (success : merge documents = .ok result)
    (disagreed : ¬ Agreed (merged documents) name) : result.document.declarationsOf name = [] := by
  obtain ⟨-, rfl⟩ := eq_outcome_of_merge success
  rw [← documents_sources, ← verdict_eq_none_iff] at disagreed
  obtain ⟨reason, verdictEq⟩ := Option.ne_none_iff_exists'.1 disagreed
  rw [declarationsOf_outcome, survivor?, shared?, verdictEq]
  rfl

/-- A name is kept as exactly one kind if and only if the documents share it. -/
theorem declarationsOf_length_eq_one_iff (success : merge documents = .ok result) :
    (result.document.declarationsOf name).length = 1 ↔ Agreed (merged documents) name := by
  constructor
  · intro single
    apply Classical.byContradiction
    intro disagreed
    rw [declarationsOf_of_not_agreed success disagreed] at single
    cases single
  · intro agreed
    obtain ⟨first, rest, split⟩ := List.exists_cons_of_ne_nil (eq_outcome_of_merge success).1
    obtain ⟨decl, declEq⟩ := agreed.declarationsOf_eq (split ▸ List.mem_cons_self)
    rw [declarationsOf_of_agreed success split agreed, declEq]
    rfl

end Survivors

section Dropped

variable {documents : List Document} {result : MergeOutcome} {name : String}

/-- A name is dropped for a reason if and only if the documents explain it. -/
theorem mem_dropped_iff (success : merge documents = .ok result) (reason : DropReason) :
    ⟨name, reason⟩ ∈ result.dropped ↔ Declared (merged documents) name ∧
      Explains (merged documents) result.document.platforms name reason := by
  obtain ⟨-, rfl⟩ := eq_outcome_of_merge success
  have listed : ⟨name, reason⟩ ∈ (outcome (sources documents)).dropped ↔
      name ∈ names (sources documents) ∧ verdict (sources documents) name = some reason := by
    simp [outcome, dropped?]
  rw [listed, mem_names_iff, documents_sources, verdict_eq_some_iff, platforms_outcome]

theorem names_dropped (sources : List Source) : (outcome sources).dropped.map (·.name) =
    (names sources).filter fun n => (verdict sources n).isSome :=
  map_key_filterMap (verdict sources) Dropped.mk (·.name) (fun _ _ => rfl) (names sources)

theorem dropped_sorted (sources : List Source) :
    (outcome sources).dropped.Pairwise (fun a b => a.name < b.name) := by
  rw [← List.pairwise_map (f := Dropped.name), names_dropped]
  exact (sortedNames_sorted _).filter _

/-- The dropped names are the declared ones that are not shared. -/
theorem mem_names_dropped_iff (success : merge documents = .ok result) :
    name ∈ result.dropped.map (·.name) ↔
      Declared (merged documents) name ∧ ¬ Agreed (merged documents) name := by
  obtain ⟨-, rfl⟩ := eq_outcome_of_merge success
  rw [names_dropped, List.mem_filter, mem_names_iff, Option.isSome_iff_ne_none, ne_eq,
    verdict_eq_none_iff, documents_sources]

/-- A declared name stands in one place, among the kept names or among the dropped ones. -/
theorem kept_add_dropped (success : merge documents = .ok result) (name : String) :
    (result.document.declarationsOf name).length + (result.dropped.map (·.name)).count name =
      if Declared (merged documents) name then 1 else 0 := by
  obtain ⟨nonempty, resultEq⟩ := eq_outcome_of_merge success
  have distinct : (result.dropped.map (·.name)).Nodup := by
    rw [resultEq, List.Nodup, List.pairwise_map]
    exact (dropped_sorted _).imp String.ne_of_lt
  rw [distinct.count]
  by_cases agreed : Agreed (merged documents) name
  · obtain ⟨first, member⟩ := List.exists_mem_of_ne_nil _ nonempty
    have declared : Declared (merged documents) name :=
      ⟨first, member, agreed.everywhere first member⟩
    have notDropped : name ∉ result.dropped.map (·.name) := fun found =>
      ((mem_names_dropped_iff success).1 found).2 agreed
    rw [(declarationsOf_length_eq_one_iff success).2 agreed, if_neg notDropped, if_pos declared]
  · have dropped : name ∈ result.dropped.map (·.name) ↔ Declared (merged documents) name := by
      rw [mem_names_dropped_iff success, and_iff_left agreed]
    rw [declarationsOf_of_not_agreed success agreed, List.length_nil, Nat.zero_add]
    simp only [dropped]

end Dropped

end Merge

open Merge in
/-- A merge fails if no document has a platform. Otherwise it keeps exactly the names that all
merged documents share, each as one kind and with the declaration of the first document, and it
lists the platforms of the documents in increasing order. -/
theorem merge_keeps_exactly_agreed (documents : List Document) :
    match merged documents with
    | [] => merge documents = .error (.invalidDocument "no platform-specific documents to merge")
    | first :: rest => ∃ result, merge documents = .ok result ∧
      (∀ name, (result.document.declarationsOf name).length = 1 ↔ Agreed (first :: rest) name) ∧
      (∀ name, Agreed (first :: rest) name →
        result.document.declarationsOf name = first.declarationsOf name) ∧
      (∀ name, ¬ Agreed (first :: rest) name → result.document.declarationsOf name = []) ∧
      result.document.platforms.Pairwise (fun p q => p.position < q.position) ∧
      ∀ p, p ∈ result.document.platforms ↔ ∃ d ∈ first :: rest, d.platform? = some p := by
  split
  · rename_i none
    rw [merge_eq, if_pos none]
  · rename_i first rest split
    have success := merge_eq_ok (split ▸ List.cons_ne_nil first rest)
    rw [← split]
    refine ⟨_, success, fun name => declarationsOf_length_eq_one_iff success,
      fun name => declarationsOf_of_agreed success split,
      fun name => declarationsOf_of_not_agreed success, ?_, ?_⟩
    · rw [platforms_outcome]
      exact platforms_increasing _
    · rw [platforms_outcome]
      exact mem_platforms_sources_iff documents

open Merge in
/-- Nothing is lost and nothing is reported twice: a name that some merged document declares is a
key of one of the three maps or is dropped, once in all. The dropped names are increasing, and a
name is dropped for a reason if and only if the merged documents explain this reason. -/
theorem merge_accounts_for_every_name (documents : List Document) (result : MergeOutcome)
    (success : merge documents = .ok result) :
    (∀ name, (result.document.declarationsOf name).length +
        (result.dropped.map (·.name)).count name =
      if Declared (merged documents) name then 1 else 0) ∧
    result.dropped.Pairwise (fun a b => a.name < b.name) ∧
    ∀ name reason, ⟨name, reason⟩ ∈ result.dropped ↔
      Declared (merged documents) name ∧
        Explains (merged documents) result.document.platforms name reason := by
  refine ⟨kept_add_dropped success, ?_, fun name => mem_dropped_iff success⟩
  rw [(eq_outcome_of_merge success).2]
  exact dropped_sorted _

/-- A document for one platform whose declarations differ from those of `windowsSample` in every
way: `Handle` in its definition, `run` in its kind, and `stop` is missing. -/
def linuxSample : Document :=
  { Document.empty with
    platformRequested := some .linux
    enums := NameMap.empty.insert "Day"
      ⟨some ⟨"day.h", 3, 1⟩, ⟨"int8_t", 1, some true⟩, [⟨"Monday", 1⟩]⟩
    functions := NameMap.empty.insert "run" ⟨none, .cdecl, "void", []⟩
    opaqueTypes := NameMap.empty.insert "Handle" ⟨none, 8⟩ }

def windowsSample : Document :=
  { Document.empty with
    platformActual := some .windows
    enums := NameMap.empty.insert "Day"
      ⟨none, ⟨"int8_t", 1, some true⟩, [⟨"Monday", 1⟩]⟩
    functions := NameMap.empty.insert "stop" ⟨none, .stdcall, "void", []⟩
    opaqueTypes := (NameMap.empty.insert "Handle" ⟨none, 4⟩).insert "run" ⟨none, 4⟩ }

open Merge in
/-- Each reason occurs, and a document without a platform takes no part. -/
theorem merge_accounts_for_samples :
    ∃ result, merge [linuxSample, Document.empty, windowsSample] = .ok result ∧
      result.dropped = [⟨"Handle", .definitionMismatch [.windows]⟩,
        ⟨"run", .kindMismatch [.function, .opaqueType]⟩,
        ⟨"stop", .missingOnPlatforms [.linux]⟩] ∧
      (result.document.declarationsOf "Day").length +
        (result.dropped.map (·.name)).count "Day" = 1 ∧
      Explains [linuxSample, windowsSample] result.document.platforms "Handle"
        (.definitionMismatch [.windows]) := by
  have success : merge [linuxSample, Document.empty, windowsSample] =
      .ok (outcome (sources [linuxSample, Document.empty, windowsSample])) := rfl
  have dropped : (outcome (sources [linuxSample, Document.empty, windowsSample])).dropped =
      [⟨"Handle", .definitionMismatch [.windows]⟩, ⟨"run", .kindMismatch [.function, .opaqueType]⟩,
        ⟨"stop", .missingOnPlatforms [.linux]⟩] := by decide
  obtain ⟨once, -, reasons⟩ := merge_accounts_for_every_name _ _ success
  have declared : Declared (merged [linuxSample, Document.empty, windowsSample]) "Day" := by decide
  refine ⟨_, success, dropped, ?_, ?_⟩
  · rw [once "Day", if_pos declared]
  · exact ((reasons "Handle" (.definitionMismatch [.windows])).1 (by rw [dropped]; simp)).2

end HeaderBindings
