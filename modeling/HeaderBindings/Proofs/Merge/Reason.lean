import HeaderBindings.Proofs.Merge.Verdict
import Mathlib.Data.List.Basic

/-!
# The reasons for which names are dropped

`Explains` states for the merged documents alone which reason a name is dropped for.
The documents explain at most one reason (`Explains.unique`), it is the one that the
merge gives (`verdict_eq_some_iff`), and another order of the documents changes it only
in what it lists (`Explains.alike`).
-/

namespace HeaderBindings

/-- Reasons that differ at most in what depends on the order of the documents. -/
inductive DropReason.Alike : DropReason → DropReason → Prop where
  | missing (platforms : List Platform) :
    Alike (.missingOnPlatforms platforms) (.missingOnPlatforms platforms)
  | kinds {kinds others : List Kind} (perm : kinds.Perm others) :
    Alike (.kindMismatch kinds) (.kindMismatch others)
  | definitions (platforms others : List Platform) :
    Alike (.definitionMismatch platforms) (.definitionMismatch others)

namespace Document

/-- The platform is unknown if and only if both the requested and the actual one are. -/
theorem platform?_eq_none_iff (d : Document) : d.platform? = none ↔ d.isUnknownPlatform = true := by
  unfold platform? isUnknownPlatform
  cases d.platformRequested <;> cases d.platformActual <;> simp

end Document

namespace Merge

/-- Whether a reason is the one for which documents drop a name. Kinds come before missing
declarations and these come before differing definitions:
* several kinds, listed in the order of their first appearance;
* otherwise, if some document lacks the name, the platforms on which no document declares it;
* otherwise the platforms of the documents that define it differently from the first one. -/
def Explains (documents : List Document) (platforms : List Platform) (name : String) :
    DropReason → Prop
  | .kindMismatch kinds =>
    ¬ OneKind documents name ∧ FirstAppearances (appearances documents name) kinds
  | .missingOnPlatforms missing =>
    OneKind documents name ∧ ¬ Everywhere documents name ∧
      missing = platforms.filter fun p =>
        ¬ ∃ d ∈ documents, d.platform? = some p ∧ d.declarationsOf name ≠ []
  | .definitionMismatch differing =>
    OneKind documents name ∧ Everywhere documents name ∧ differing ≠ [] ∧
      ∃ first rest, documents = first :: rest ∧
        differing = (documents.filter fun d =>
          d.definitionsOf name ≠ first.definitionsOf name).filterMap (·.platform?)

section Sources

variable (documents : List Document)

/-- The sources of a merge are the merged documents, each with its platform. -/
theorem sources_eq : sources documents =
    (merged documents).filterMap fun d => d.platform?.map fun p => ⟨p, d⟩ := by
  induction documents with
  | nil => rfl
  | cons d rest ih =>
    cases known : d.platform? with
    | none =>
      have unknown : d.isUnknownPlatform = true := d.platform?_eq_none_iff.1 known
      simpa [sources, merged, known, unknown] using ih
    | some p =>
      have notUnknown : d.isUnknownPlatform = false := by
        rw [Bool.eq_false_iff, ne_eq, ← d.platform?_eq_none_iff, known]
        exact nofun
      simpa [sources, merged, known, notUnknown] using ih

theorem exists_platform_of_mem_merged {d : Document} (member : d ∈ merged documents) :
    ∃ p, d.platform? = some p := by
  have notUnknown : d.isUnknownPlatform = false := by
    simpa using (List.mem_filter.1 member).2
  rw [← Option.isSome_iff_exists, Option.isSome_iff_ne_none, ne_eq, d.platform?_eq_none_iff,
    notUnknown]
  exact Bool.false_ne_true

theorem documents_sources : (sources documents).map (·.document) = merged documents := by
  have known : ∀ d ∈ merged documents, d.platform?.map (fun _ => d) = some d := by
    intro d member
    obtain ⟨p, platform⟩ := exists_platform_of_mem_merged documents member
    rw [platform, Option.map_some]
  rw [sources_eq, List.map_filterMap]
  simp only [Option.map_map, Function.comp_def]
  rw [List.filterMap_congr known, List.filterMap_some]

/-- Selecting sources by their documents is selecting documents. -/
theorem platforms_filter_sources (keep : Document → Bool) :
    ((sources documents).filter fun s => keep s.document).map (·.platform) =
      ((merged documents).filter keep).filterMap (·.platform?) := by
  rw [sources_eq]
  induction merged documents with
  | nil => rfl
  | cons d rest ih =>
    cases known : d.platform? <;> cases kept : keep d <;> simp [known, kept, ih]

theorem any_sources (p : Platform) (test : Document → Bool) :
    ((sources documents).any fun s => s.platform == p && test s.document) =
      (merged documents).any fun d => d.platform? == some p && test d := by
  rw [sources_eq]
  induction merged documents with
  | nil => rfl
  | cons d rest ih =>
    cases known : d.platform? <;> simp [known, ih]

end Sources

section Members

variable {documents others : List Document} (same : ∀ d, d ∈ documents ↔ d ∈ others)
  {name : String}
include same

theorem oneKind_congr : OneKind documents name ↔ OneKind others name := by
  simp only [OneKind, same]

theorem everywhere_congr : Everywhere documents name ↔ Everywhere others name := by
  simp only [Everywhere, same]

theorem declared_congr : Declared documents name ↔ Declared others name := by
  simp only [Declared, same]

theorem agreed_congr : Agreed documents name ↔ Agreed others name := by
  have definitions : OneDefinition documents name ↔ OneDefinition others name := by
    simp only [OneDefinition, same]
  constructor
  · rintro ⟨everywhere, oneKind, oneDefinition⟩
    exact ⟨(everywhere_congr same).1 everywhere, (oneKind_congr same).1 oneKind,
      definitions.1 oneDefinition⟩
  · rintro ⟨everywhere, oneKind, oneDefinition⟩
    exact ⟨(everywhere_congr same).2 everywhere, (oneKind_congr same).2 oneKind,
      definitions.2 oneDefinition⟩

theorem mem_appearances_congr (kind : Kind) :
    kind ∈ appearances documents name ↔ kind ∈ appearances others name := by
  simp only [appearances, List.mem_flatMap, same]

end Members

section Explained

/-- The same documents in another order explain the same reason, up to what it lists. -/
theorem Explains.alike {documents others : List Document} {platforms : List Platform}
    {name : String} {reason other : DropReason} (same : ∀ d, d ∈ documents ↔ d ∈ others)
    (left : Explains documents platforms name reason)
    (right : Explains others platforms name other) : reason.Alike other := by
  cases reason with
  | kindMismatch kinds =>
    obtain ⟨several, order⟩ := left
    rw [oneKind_congr same] at several
    cases other with
    | kindMismatch otherKinds =>
      refine .kinds ((List.perm_ext_iff_of_nodup order.nodup right.2.nodup).2 fun kind => ?_)
      rw [order.members, right.2.members, mem_appearances_congr same]
    | missingOnPlatforms => exact absurd right.1 several
    | definitionMismatch => exact absurd right.1 several
  | missingOnPlatforms missing =>
    obtain ⟨oneKind, lacking, listed⟩ := left
    rw [oneKind_congr same] at oneKind
    rw [everywhere_congr same] at lacking
    cases other with
    | kindMismatch => exact absurd oneKind right.1
    | missingOnPlatforms otherMissing =>
      have equal : missing = otherMissing := by
        rw [listed, right.2.2]
        simp only [same]
      exact equal ▸ .missing missing
    | definitionMismatch => exact absurd right.2.1 lacking
  | definitionMismatch differing =>
    obtain ⟨oneKind, everywhere, -⟩ := left
    rw [oneKind_congr same] at oneKind
    rw [everywhere_congr same] at everywhere
    cases other with
    | kindMismatch => exact absurd oneKind right.1
    | missingOnPlatforms => exact absurd everywhere right.2.1
    | definitionMismatch => exact .definitions _ _

/-- The three cases exclude each other, so a name has one reason at most. -/
theorem Explains.unique {documents : List Document} {platforms : List Platform} {name : String}
    {reason other : DropReason} (left : Explains documents platforms name reason)
    (right : Explains documents platforms name other) : reason = other := by
  cases left.alike (fun _ => Iff.rfl) right with
  | missing => rfl
  | kinds => rw [left.2.eq right.2]
  | definitions =>
    obtain ⟨-, -, -, first, rest, split, listed⟩ := left
    obtain ⟨-, -, -, otherFirst, otherRest, otherSplit, otherListed⟩ := right
    obtain ⟨rfl, -⟩ := List.cons.inj (split.symm.trans otherSplit)
    rw [listed, otherListed]

/-- A name with a reason is not shared. -/
theorem Explains.not_agreed {documents : List Document} {platforms : List Platform} {name : String}
    {reason : DropReason} (explained : Explains documents platforms name reason) :
    ¬ Agreed documents name := by
  cases reason with
  | kindMismatch => exact fun agreed => explained.1 agreed.oneKind
  | missingOnPlatforms => exact fun agreed => explained.2.1 agreed.everywhere
  | definitionMismatch differing =>
    obtain ⟨oneKind, everywhere, nonempty, first, rest, rfl, rfl⟩ := explained
    rw [← differs_iff_not_agreed oneKind everywhere]
    obtain ⟨p, member⟩ := List.exists_mem_of_ne_nil _ nonempty
    obtain ⟨d, kept, -⟩ := List.mem_filterMap.1 member
    exact ⟨d, (List.mem_filter.1 kept).1, by simpa using (List.mem_filter.1 kept).2⟩

variable (documents : List Document) (name : String)

theorem missing_sources :
    ((platforms (sources documents)).filter fun p =>
      !(sources documents).any fun s =>
        s.platform == p && !(s.document.declarationsOf name).isEmpty) =
      (platforms (sources documents)).filter fun p =>
        ¬ ∃ d ∈ merged documents, d.platform? = some p ∧ d.declarationsOf name ≠ [] := by
  congr 1
  funext p
  rw [any_sources documents p fun d => !(d.declarationsOf name).isEmpty]
  rw [Bool.eq_iff_iff]
  simp

/-- Each reason of a verdict is the one that the documents explain. -/
theorem explains_of_judged {reason : DropReason}
    (judged : Judged (sources documents) name (some reason)) :
    Explains (merged documents) (platforms (sources documents)) name reason := by
  rw [← documents_sources]
  cases judged with
  | severalKinds several => exact ⟨several, firstAppearances_eraseDups _⟩
  | missing oneKind lacking =>
    refine ⟨oneKind, lacking, ?_⟩
    rw [documents_sources]
    exact missing_sources documents name
  | differing oneKind everywhere first rest split differs =>
    refine ⟨oneKind, everywhere, ?_, first.document, rest.map (·.document), ?_, ?_⟩
    · simpa [List.filter_eq_nil_iff] using differs
    · rw [split, List.map_cons]
    · rw [documents_sources]
      exact platforms_filter_sources documents fun d =>
        d.definitionsOf name ≠ first.document.definitionsOf name

theorem verdict_eq_some_iff (reason : DropReason) :
    verdict (sources documents) name = some reason ↔
      Explains (merged documents) (platforms (sources documents)) name reason := by
  have judged := verdict_judged (sources documents) name
  constructor
  · intro given
    rw [given] at judged
    exact explains_of_judged documents name judged
  · intro explained
    cases result : verdict (sources documents) name with
    | none =>
      rw [verdict_eq_none_iff, documents_sources] at result
      exact absurd result explained.not_agreed
    | some other =>
      rw [result] at judged
      rw [(explains_of_judged documents name judged).unique explained]

end Explained

end Merge

end HeaderBindings
