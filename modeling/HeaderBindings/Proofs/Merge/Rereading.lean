import HeaderBindings.Proofs.Document.RoundTrip
import HeaderBindings.Proofs.Document.Validity
import HeaderBindings.Proofs.Merge.Outcome

/-!
# Reading the result of a merge

Read as a document of one platform, the text of a shared document gives the same declarations
on no known platform (`SharedDocument.unplaced`), because the list of platforms is no field
there and is skipped.

This reader also validates. A merge invents no declaration (`exists_mem_declarationsOf`), so
its result passes if the merged documents are valid; and a document on no known platform
changes no merge that it is added to (`merge_insert_unknown`).
-/

namespace HeaderBindings

open HeaderBindings.Json

namespace SharedDocument

/-- The declarations of a shared document on no known platform. -/
def unplaced (d : SharedDocument) : Document :=
  { Document.empty with
    enums := d.enums
    functions := d.functions
    opaqueTypes := d.opaqueTypes }

/-- Read as a document of one platform, a shared document loses its platforms and nothing else. -/
theorem document_decode_json (d : SharedDocument) :
    Document.shape.decode d.json = .ok d.unplaced := by
  have functions := nameMap_inverts FunctionDecl.shape_inverts d.functions
  have enums := nameMap_inverts EnumDecl.shape_inverts d.enums
  have opaqueTypes := nameMap_inverts OpaqueDecl.shape_inverts d.opaqueTypes
  have written : ((Document.shape.fields.drop 3).take 3).Sublist Document.shape.fields :=
    (List.take_sublist 3 _).trans (List.drop_sublist 3 _)
  have skipped : Document.shape.decode d.json = Document.shape.decode (.object
      [member "functions" (d.functions.json FunctionDecl.json),
        member "enums" (d.enums.json EnumDecl.json),
        member "opaqueTypes" (d.opaqueTypes.json OpaqueDecl.json)]) :=
    Document.shape.readMembers_cons_of_unknown (by decide) [] _ _ _
  rw [skipped]
  refine (Document.shape.decode_zipWith [_, _, _] written (by decide) (by decide) rfl).trans ?_
  simp only [Document.shape, Field.defaulted, Field.of, List.drop_succ_cons, List.drop_zero,
    List.take_succ_cons, List.take_zero, List.zip_cons_cons, List.foldlM_cons, NameMap.json,
    functions, enums, opaqueTypes]
  rfl

theorem document_parse_render (d : SharedDocument) :
    Document.parse d.render = d.unplaced.validate.map fun _ => d.unplaced := by
  rw [Document.parse, Document.decode, render, decodeText_pretty _ d.plain_json,
    document_decode_json]

end SharedDocument

namespace Merge

section Kept

variable {documents : List Document} {result : MergeOutcome}
  (success : merge documents = .ok result)
include success

/-- A merge invents no declaration. -/
theorem exists_mem_declarationsOf {name : String} {decl : Decl}
    (kept : decl ∈ result.document.declarationsOf name) :
    ∃ d ∈ documents, decl ∈ d.declarationsOf name := by
  obtain ⟨first, rest, split⟩ := List.exists_cons_of_ne_nil (eq_outcome_of_merge success).1
  have firstMerged : first ∈ merged documents := split ▸ List.mem_cons_self
  by_cases agreed : Agreed (merged documents) name
  · rw [declarationsOf_of_agreed success split agreed] at kept
    exact ⟨first, (List.mem_filter.1 firstMerged).1, kept⟩
  · rw [declarationsOf_of_not_agreed success agreed] at kept
    cases kept

/-- Whatever a merge keeps of valid documents is valid. -/
theorem validate_unplaced (valid : ∀ d ∈ documents, d.validate = .ok ()) :
    result.document.unplaced.validate = .ok () := by
  rw [Document.validate_eq_ok_iff]
  intro name decl kept
  obtain ⟨d, member, declared⟩ := exists_mem_declarationsOf success kept
  exact d.validate_eq_ok_iff.1 (valid d member) name decl declared

end Kept

end Merge

/-- A document on no known platform changes nothing, wherever it stands. -/
theorem merge_insert_unknown {d : Document} (unknown : d.platform? = none)
    (before after : List Document) : merge (before ++ d :: after) = merge (before ++ after) := by
  have same : Merge.sources (before ++ d :: after) = Merge.sources (before ++ after) := by
    simp only [Merge.sources, List.filterMap_append, List.filterMap_cons, unknown, Option.map_none]
  rw [merge, merge, same]

/-- The result of merging valid documents is read back from its text. Read as a document of one
platform it is valid and has the same declarations, no platform, no file name and no excluded names;
and inserting this document anywhere among the merged ones gives the same result again. -/
theorem merge_rereads_inertly (documents : List Document) (result : MergeOutcome)
    (valid : ∀ d ∈ documents, d.validate = .ok ()) (success : merge documents = .ok result) :
    SharedDocument.parse result.document.render = .ok result.document ∧
      ∃ d, Document.parse result.document.render = .ok d ∧
        d.enums = result.document.enums ∧ d.functions = result.document.functions ∧
        d.opaqueTypes = result.document.opaqueTypes ∧
        d.platformRequested = none ∧ d.platformActual = none ∧ d.fileName = "" ∧ d.excluded = [] ∧
        ∀ before after, documents = before ++ after →
          merge (before ++ d :: after) = .ok result := by
  have parsed : Document.parse result.document.render = .ok result.document.unplaced := by
    rw [SharedDocument.document_parse_render, Merge.validate_unplaced success valid]
    rfl
  refine ⟨result.document.parse_render_self, result.document.unplaced, parsed, rfl, rfl, rfl, rfl,
    rfl, rfl, rfl, ?_⟩
  intro before after split
  rw [merge_insert_unknown rfl, ← split, success]

/-- The samples are valid, and what is left of them after a merge may be put between them. -/
theorem merge_rereads_samples :
    ∃ result, merge [linuxSample, windowsSample] = .ok result ∧
      result.document.platforms = [.linux, .windows] ∧ result.document.enums.names = ["Day"] ∧
      ∃ d, Document.parse result.document.render = .ok d ∧
        d.enums = result.document.enums ∧ d.platformRequested = none ∧
        merge [linuxSample, d, windowsSample] = .ok result := by
  have success : merge [linuxSample, windowsSample] =
      .ok (Merge.outcome (Merge.sources [linuxSample, windowsSample])) := rfl
  have valid : ∀ d ∈ [linuxSample, windowsSample], d.validate = .ok () := by
    intro d member
    simp only [List.mem_cons, List.not_mem_nil, or_false] at member
    rcases member with rfl | rfl
    · decide
    · decide
  obtain ⟨-, d, parsed, enums, -, -, requested, -, -, -, inert⟩ :=
    merge_rereads_inertly _ _ valid success
  exact ⟨_, success, by decide, by decide, d, parsed, enums, requested,
    inert [linuxSample] [windowsSample] rfl⟩

end HeaderBindings
