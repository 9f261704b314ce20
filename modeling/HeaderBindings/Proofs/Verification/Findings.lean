import HeaderBindings.Proofs.Artifact.FirstLine
import HeaderBindings.Proofs.Text.ByteOrder
import HeaderBindings.Proofs.Verification

/-!
# The findings of a report, one by one

A report lists excluded symbols first and missing declarations last. Which these are, what
each of them says and in which order they stand is told here by the text, the document and
the exclusions alone (`ExcludedFindings`, `MissingNames`), without the map that the text is
scanned into, the sorting of this map and the search through the exclusions
(`verify_findings_are_exact`).
-/

namespace HeaderBindings

open HeaderBindings.Artifact HeaderBindings.Text

/-- The symbol that a finding reports as excluded, if it reports one. -/
def Anomaly.excludedSymbol? : Anomaly → Option String
  | .excluded _ symbol _ => some symbol
  | _ => none

/-- Excluded symbols are reported line by line, those of one line in the order of their bytes. -/
def Anomaly.ReportedBefore : Anomaly → Anomaly → Prop
  | .excluded _ a m, .excluded _ b n => m < n ∨ m = n ∧ BytesBefore a b
  | _, _ => False

namespace Verification

/-- Whether exclusions concern a symbol: one of them covers it or, where derived symbols do not
count, one of them is spelled like it. -/
def Concerns (o : VerifyOptions) (symbol : String) : Prop :=
  if o.coverDerived then ∃ e ∈ o.exclusions.rules, e.covers symbol = true
  else symbol ∈ o.exclusions.declarations

/-- Whether a symbol is reported for a declaration: the one of the first exclusion that covers it
or, where derived symbols do not count, the symbol itself. -/
def ReportedFor (o : VerifyOptions) (symbol declaration : String) : Prop :=
  if o.coverDerived then
    ∃ before e after, o.exclusions.rules = before ++ e :: after ∧ e.covers symbol = true ∧
      declaration = e.declaration ∧ ∀ earlier ∈ before, earlier.covers symbol = false
  else
    symbol ∈ o.exclusions.declarations ∧ declaration = symbol

/-- Whether findings are the excluded symbols of a text. -/
structure ExcludedFindings (text : String) (o : VerifyOptions) (findings : List Anomaly) :
    Prop where
  /-- Each finding has the first line of its symbol and the declaration that stands for it. -/
  located : ∀ a ∈ findings, ∃ declaration symbol line, a = .excluded declaration symbol line ∧
    FirstMentioned text symbol line ∧ ReportedFor o symbol declaration
  /-- The reported symbols are those that the text mentions and the exclusions concern. -/
  complete : ∀ symbol, symbol ∈ findings.filterMap Anomaly.excludedSymbol? ↔
    Mentions text symbol ∧ Concerns o symbol
  /-- No symbol is reported twice. -/
  once : (findings.filterMap Anomaly.excludedSymbol?).Nodup
  ordered : findings.Pairwise Anomaly.ReportedBefore

/-- Whether names are the keys of a map that are neither excluded nor mentioned. -/
structure Unmentioned {α : Type} (text : String) (o : VerifyOptions) (m : NameMap α)
    (names : List String) : Prop where
  members : ∀ name, name ∈ names ↔ (∃ value, m.find? name = some value) ∧
    name ∉ o.exclusions.declarations ∧ ¬ Mentions text name
  ordered : names.Pairwise BytesBefore

/-- Whether names are those that a report calls missing: enums, then functions, then opaque types,
or none if coverage is not required. -/
def MissingNames (text : String) (d : Document) (o : VerifyOptions) (names : List String) : Prop :=
  if o.requireCoverage then
    ∃ enums functions opaqueTypes, names = enums ++ functions ++ opaqueTypes ∧
      Unmentioned text o d.enums enums ∧ Unmentioned text o d.functions functions ∧
      Unmentioned text o d.opaqueTypes opaqueTypes
  else
    names = []

section Exclusions

variable (o : VerifyOptions) (symbol : String)

theorem excludes_iff_mem_declarations (l : ExclusionList) :
    l.excludes symbol = true ↔ symbol ∈ l.declarations := by
  rw [ExclusionList.excludes_iff, ExclusionList.declarations, List.mem_map]

theorem excludedBy?_eq_some_iff (declaration : String) :
    excludedBy? o symbol = some declaration ↔ ReportedFor o symbol declaration := by
  unfold excludedBy? ReportedFor
  split
  · rw [Option.map_eq_some_iff, ExclusionList.covering?]
    constructor
    · rintro ⟨e, found, rfl⟩
      obtain ⟨covers, before, after, split, absent⟩ := List.find?_eq_some_iff_append.1 found
      exact ⟨before, e, after, split, covers, rfl, by simpa using absent⟩
    · rintro ⟨before, e, after, split, covers, rfl, absent⟩
      refine ⟨e, List.find?_eq_some_iff_append.2 ⟨covers, before, after, split, ?_⟩, rfl⟩
      simpa using absent
  · rw [← excludes_iff_mem_declarations]
    cases o.exclusions.excludes symbol <;> simp [eq_comm]

theorem excludedBy?_isSome_iff_concerns :
    (excludedBy? o symbol).isSome = true ↔ Concerns o symbol := by
  unfold excludedBy? Concerns
  split
  · rw [Option.isSome_map, ExclusionList.covering?_isSome_iff]
  · rw [← excludes_iff_mem_declarations]
    cases o.exclusions.excludes symbol <;> simp

end Exclusions

section Visits

variable (found : NameMap Nat)

theorem visitedBefore_iff (a b : String × Nat) :
    visitedBefore a b = true ↔ a.2 < b.2 ∨ a.2 = b.2 ∧ a.1 ≤ b.1 := by
  unfold visitedBefore
  split
  · rename_i same
    simp [same]
  · rename_i different
    rw [decide_eq_true_iff]
    omega

theorem names_mergeSort_nodup : ((found.entries.mergeSort visitedBefore).map (·.1)).Nodup :=
  ((List.mergeSort_perm found.entries visitedBefore).map _).nodup_iff.2 found.names_nodup

/-- The identifiers are visited line by line and name by name, none of them twice. -/
theorem mergeSort_visitedBefore_sorted : (found.entries.mergeSort visitedBefore).Pairwise
    fun a b => a.2 < b.2 ∨ a.2 = b.2 ∧ a.1 < b.1 := by
  have sorted : (found.entries.mergeSort visitedBefore).Pairwise
      fun a b => visitedBefore a b = true := by
    apply List.pairwise_mergeSort
    · intro a b c first second
      rw [visitedBefore_iff] at first second ⊢
      rcases first with first | ⟨firstLine, first⟩ <;>
        rcases second with second | ⟨secondLine, second⟩
      · exact .inl (by omega)
      · exact .inl (by omega)
      · exact .inl (by omega)
      · exact .inr ⟨firstLine.trans secondLine, String.le_trans first second⟩
    · intro a b
      rw [Bool.or_eq_true, visitedBefore_iff, visitedBefore_iff]
      rcases Nat.lt_trichotomy a.2 b.2 with line | line | line
      · exact .inl (.inl line)
      · exact (String.le_total a.1 b.1).imp (fun below => .inr ⟨line, below⟩)
          fun above => .inr ⟨line.symm, above⟩
      · exact .inr (.inl line)
  refine sorted.imp₂ (fun a b visited different => ?_)
    (List.pairwise_map.1 (names_mergeSort_nodup found))
  rcases (visitedBefore_iff a b).1 visited with line | ⟨line, below⟩
  · exact .inl line
  · refine .inr ⟨line, ?_⟩
    apply NameMap.lt_of_not_lt
    · exact String.not_lt.2 below
    · exact Ne.symm different

end Visits

section Excluded

variable (text : String) (o : VerifyOptions) (found : NameMap Nat)

/-- The reported symbols are the visited identifiers that are excluded, in the same order. -/
theorem filterMap_excludedSymbol?_eq :
    (excludedSymbols o found).filterMap Anomaly.excludedSymbol? =
      ((found.entries.mergeSort visitedBefore).map (·.1)).filter
        fun symbol => (excludedBy? o symbol).isSome := by
  unfold excludedSymbols
  induction found.entries.mergeSort visitedBefore with
  | nil => rfl
  | cons e rest ih =>
    cases covered : excludedBy? o e.1 with
    | none => simpa [covered] using ih
    | some declaration => simpa [covered, Anomaly.excludedSymbol?] using ih

theorem excludedSymbols_reportedBefore :
    (excludedSymbols o found).Pairwise Anomaly.ReportedBefore := by
  rw [excludedSymbols, List.pairwise_filterMap]
  refine (mergeSort_visitedBefore_sorted found).imp fun {a b} before => ?_
  intro x left y right
  obtain ⟨declaration, -, rfl⟩ := Option.map_eq_some_iff.1 left
  obtain ⟨other, -, rfl⟩ := Option.map_eq_some_iff.1 right
  rcases before with line | ⟨line, below⟩
  · exact .inl line
  · exact .inr ⟨line, (bytesBefore_iff a.1 b.1).2 below⟩

theorem excludedSymbols_findings :
    ExcludedFindings text o (excludedSymbols o (firstLines text)) where
  located := by
    intro a member
    obtain ⟨declaration, symbol, line, rfl, listed, covered⟩ :=
      (mem_excludedSymbols_iff o _ a).1 member
    have first := (NameMap.mem_entries_iff _ symbol line).1 listed
    exact ⟨declaration, symbol, line, rfl, (find?_firstLines_eq_some_iff text symbol line).1 first,
      (excludedBy?_eq_some_iff o symbol declaration).1 covered⟩
  complete := by
    intro symbol
    have visited : symbol ∈ ((firstLines text).entries.mergeSort visitedBefore).map (·.1) ↔
        symbol ∈ (firstLines text).names :=
      ((List.mergeSort_perm _ visitedBefore).map _).mem_iff
    rw [filterMap_excludedSymbol?_eq, List.mem_filter, visited, mem_names_firstLines_iff,
      excludedBy?_isSome_iff_concerns]
  once := by
    rw [filterMap_excludedSymbol?_eq]
    exact (names_mergeSort_nodup _).filter _
  ordered := excludedSymbols_reportedBefore o _

end Excluded

section Missing

variable (text : String) (d : Document) (o : VerifyOptions)

theorem unmentioned_filter {α : Type} (m : NameMap α) :
    Unmentioned text o m (m.names.filter fun name =>
      !o.exclusions.excludes name && !(firstLines text).contains name) where
  members := by
    intro name
    rw [List.mem_filter, NameMap.mem_names_iff, Bool.and_eq_true, Bool.not_eq_true',
      Bool.not_eq_true', ← Bool.not_eq_true, ← Bool.not_eq_true, excludes_iff_mem_declarations,
      contains_firstLines_iff]
  ordered := pairwise_bytesBefore (m.names_sorted.filter _)

theorem exists_missingNames : ∃ names, MissingNames text d o names ∧
    missingDeclarations o (firstLines text) d = names.map .missing := by
  unfold MissingNames missingDeclarations
  split
  · refine ⟨_, ⟨_, _, _, ?_, unmentioned_filter text o d.enums,
      unmentioned_filter text o d.functions, unmentioned_filter text o d.opaqueTypes⟩, rfl⟩
    rw [List.filter_append, List.filter_append]
  · exact ⟨[], rfl, rfl⟩

end Missing

section Result

theorem exclusionError?_eq_none {a : Anomaly} (kind : a.kind ≠ .excludedDeclaration) :
    Report.exclusionError? a = none := by
  cases a with
  | excluded => exact absurd rfl kind
  | _ => rfl

/-- A report whose excluded symbols all stand in front fails for the first of them. -/
theorem exclusionResult_of_leading {r : Report} {excluded others : List Anomaly}
    (split : r.anomalies = excluded ++ others)
    (leading : ∀ a ∈ excluded, ∃ declaration symbol line, a = .excluded declaration symbol line)
    (different : ∀ a ∈ others, a.kind ≠ .excludedDeclaration) :
    (r.exclusionResult = .ok () ↔ excluded = []) ∧
    ∀ declaration symbol line rest, excluded = .excluded declaration symbol line :: rest →
      r.exclusionResult = .error (.excludedDeclarationEmitted declaration symbol) := by
  cases excluded with
  | nil =>
    have later : r.anomalies.findSome? Report.exclusionError? = none := by
      rw [split, List.nil_append, List.findSome?_eq_none_iff]
      exact fun a member => exclusionError?_eq_none (different a member)
    have passed : r.exclusionResult = .ok () := by
      rw [Report.exclusionResult, later]
    exact ⟨iff_of_true passed rfl, fun _ _ _ _ none => absurd none (List.cons_ne_nil _ _).symm⟩
  | cons first rest =>
    obtain ⟨declaration, symbol, line, rfl⟩ := leading first List.mem_cons_self
    have failed : r.exclusionResult = .error (.excludedDeclarationEmitted declaration symbol) := by
      rw [Report.exclusionResult, split]
      rfl
    refine ⟨iff_of_false (by rw [failed]; exact nofun) (List.cons_ne_nil _ _), ?_⟩
    rintro _ _ _ _ ⟨⟩
    exact failed

end Result

end Verification

open Verification in
/-- A report starts with the excluded symbols and ends with the missing declarations, and it fails
for the first excluded symbol. It counts the distinct identifiers of the text. -/
theorem verify_findings_are_exact (artifact text : String) (d : Document) (o : VerifyOptions) :
    ∃ excluded widths missing,
      (verify artifact text d o).anomalies = excluded ++ widths ++ missing.map .missing ∧
      ExcludedFindings text o excluded ∧
      (∀ a ∈ widths, a.kind = .widthTooNarrow ∨ a.kind = .unknownIntegerType) ∧
      MissingNames text d o missing ∧
      ((verify artifact text d o).exclusionResult = .ok () ↔ excluded = []) ∧
      (∀ declaration symbol line rest, excluded = .excluded declaration symbol line :: rest →
        (verify artifact text d o).exclusionResult =
          .error (.excludedDeclarationEmitted declaration symbol)) ∧
      ∃ words : List String, words.Nodup ∧ (∀ word, word ∈ words ↔ Mentions text word) ∧
        (verify artifact text d o).identifierCount = words.length := by
  have excluded := excludedSymbols_findings text o
  have widths : ∀ a ∈ narrowEnums o text d,
      a.kind = .widthTooNarrow ∨ a.kind = .unknownIntegerType := fun _ member =>
    kind_of_mem_narrowEnums text d o member
  obtain ⟨names, missing, listed⟩ := exists_missingNames text d o
  have parts : (verify artifact text d o).anomalies =
      excludedSymbols o (firstLines text) ++ (narrowEnums o text d ++ names.map .missing) := by
    rw [← listed, ← List.append_assoc]
    rfl
  have leading : ∀ a ∈ excludedSymbols o (firstLines text),
      ∃ declaration symbol line, a = .excluded declaration symbol line := by
    intro a member
    obtain ⟨declaration, symbol, line, same, -⟩ := excluded.located a member
    exact ⟨declaration, symbol, line, same⟩
  have different : ∀ a ∈ narrowEnums o text d ++ names.map .missing,
      a.kind ≠ .excludedDeclaration := by
    intro a member
    rcases List.mem_append.1 member with narrow | absent
    · rcases widths a narrow with kind | kind <;> rw [kind] <;> decide
    · obtain ⟨name, -, rfl⟩ := List.mem_map.1 absent
      exact nofun
  obtain ⟨passes, fails⟩ := exclusionResult_of_leading parts leading different
  exact ⟨_, _, names, parts.trans (List.append_assoc _ _ _).symm, excluded, widths, missing, passes,
    fails, exists_words_size_firstLines text⟩

end HeaderBindings
