import HeaderBindings.Proofs.Merge.Outcome
import Mathlib.Data.List.Nodup

/-!
# The platforms on which a dropped name is missing

A name is dropped as missing because some document lacks it, but its reason lists
platforms: those on which no document declares the name. The two views differ where
several documents are made for one platform. The reason lists no platform at all if every
document that lacks the name has another one beside it, for the same platform, that declares
it (`merge_names_missing_platform_iff`).
-/

namespace HeaderBindings

namespace Merge

section Listed

variable {documents : List Document} {name : String} {missing : List Platform}
  (explained : Explains (merged documents) (platforms (sources documents)) name
    (.missingOnPlatforms missing))
include explained

/-- The platform of a merged document is listed if no document for this platform declares the
name. -/
theorem Explains.mem_missing_iff {d : Document} (member : d ∈ merged documents) {p : Platform}
    (platform : d.platform? = some p) : p ∈ missing ↔
      ∀ e ∈ merged documents, e.platform? = d.platform? → e.declarationsOf name = [] := by
  have listed : p ∈ platforms (sources documents) :=
    (mem_platforms_sources_iff documents p).2 ⟨d, member, platform⟩
  rw [explained.2.2, List.mem_filter, and_iff_right listed, platform]
  simp

theorem Explains.missing_ne_nil_iff : missing ≠ [] ↔ ∃ d ∈ merged documents,
    ∀ e ∈ merged documents, e.platform? = d.platform? → e.declarationsOf name = [] := by
  constructor
  · intro nonempty
    obtain ⟨p, listed⟩ := List.exists_mem_of_ne_nil missing nonempty
    have merges : p ∈ platforms (sources documents) := by
      rw [explained.2.2] at listed
      exact (List.mem_filter.1 listed).1
    obtain ⟨d, member, platform⟩ := (mem_platforms_sources_iff documents p).1 merges
    exact ⟨d, member, (explained.mem_missing_iff member platform).1 listed⟩
  · rintro ⟨d, member, absent⟩
    obtain ⟨p, platform⟩ := exists_platform_of_mem_merged documents member
    exact List.ne_nil_of_mem ((explained.mem_missing_iff member platform).2 absent)

/-- A document that lacks the name speaks for its platform if it is the only one for it. -/
theorem Explains.missing_ne_nil_of_nodup
    (distinct : ((merged documents).map (·.platform?)).Nodup) : missing ≠ [] := by
  obtain ⟨d, member, absent⟩ : ∃ d ∈ merged documents, d.declarationsOf name = [] := by
    have lacking := explained.2.1
    simpa [Everywhere] using lacking
  refine explained.missing_ne_nil_iff.2 ⟨d, member, fun e other same => ?_⟩
  rw [List.inj_on_of_nodup_map distinct other member same, absent]

end Listed

end Merge

open Merge in
/-- The reason for which a missing name is dropped lists a platform if and only if there is a
platform none of whose documents declares the name. This is always so if no two documents are
made for one platform. -/
theorem merge_names_missing_platform_iff {documents : List Document} {result : MergeOutcome}
    {name : String} {missing : List Platform} (success : merge documents = .ok result)
    (dropped : ⟨name, .missingOnPlatforms missing⟩ ∈ result.dropped) :
    (missing ≠ [] ↔ ∃ d ∈ merged documents,
      ∀ e ∈ merged documents, e.platform? = d.platform? → e.declarationsOf name = []) ∧
    (((merged documents).map (·.platform?)).Nodup → missing ≠ []) := by
  have explained := ((mem_dropped_iff success _).1 dropped).2
  rw [(eq_outcome_of_merge success).2, platforms_outcome] at explained
  exact ⟨explained.missing_ne_nil_iff, explained.missing_ne_nil_of_nodup⟩

/-- The samples are made for two platforms, so the one that lacks `stop` is named. -/
theorem merge_names_missing_platform_samples :
    ∃ result missing, merge [linuxSample, windowsSample] = .ok result ∧
      ⟨"stop", .missingOnPlatforms missing⟩ ∈ result.dropped ∧ missing ≠ [] := by
  have success : merge [linuxSample, windowsSample] =
      .ok (Merge.outcome (Merge.sources [linuxSample, windowsSample])) := rfl
  have dropped : ⟨"stop", .missingOnPlatforms [.linux]⟩ ∈
      (Merge.outcome (Merge.sources [linuxSample, windowsSample])).dropped := by decide
  exact ⟨_, _, success, dropped, (merge_names_missing_platform_iff success dropped).2 (by decide)⟩

/-- Two documents for one platform, only one of which declares `run`: it is dropped as missing, on
no platform. -/
theorem merge_names_no_missing_platform :
    ∃ result,
      merge [{ Document.empty with
          platformRequested := some .linux
          functions := NameMap.empty.insert "run" ⟨none, .cdecl, "void", []⟩ },
        { Document.empty with platformRequested := some .linux }] = .ok result ∧
      ⟨"run", .missingOnPlatforms []⟩ ∈ result.dropped :=
  ⟨_, rfl, by decide⟩

end HeaderBindings
