import HeaderBindings.Verification
import HeaderBindings.Proofs.Catalog

/-!
# What a report finds

A report finds a symbol excluded if the artifact mentions the symbol and an exclusion
covers it (`findsExcluded_iff`), and it finds a name missing if the document declares the
name, the artifact does not mention it and no exclusion is spelled like it
(`findsMissing_iff`). The two tests ask different questions of the exclusions, so some names are
refused when they are present and asked for when they are absent
(`forbids_and_demands_iff`): the names that an exclusion covers without naming them.
-/

namespace HeaderBindings

open HeaderBindings.Artifact HeaderBindings.Verification

namespace Report

/-- Whether a report finds that a symbol is derived from an excluded declaration. -/
def FindsExcluded (r : Report) (symbol : String) : Prop :=
  ∃ declaration line, .excluded declaration symbol line ∈ r.anomalies

/-- Whether a report finds that the artifact does not mention a name. -/
def FindsMissing (r : Report) (name : String) : Prop :=
  .missing name ∈ r.anomalies

end Report

namespace Verification

variable (artifact text : String) (d : Document) (o : VerifyOptions)

theorem mem_excludedSymbols_iff (found : NameMap Nat) (a : Anomaly) :
    a ∈ excludedSymbols o found ↔ ∃ declaration symbol line, a = .excluded declaration symbol line ∧
      (symbol, line) ∈ found.entries ∧ excludedBy? o symbol = some declaration := by
  simp only [excludedSymbols, List.mem_filterMap, List.mem_mergeSort, Option.map_eq_some_iff]
  constructor
  · rintro ⟨⟨symbol, line⟩, listed, declaration, covered, rfl⟩
    exact ⟨declaration, symbol, line, rfl, listed, covered⟩
  · rintro ⟨declaration, symbol, line, rfl, listed, covered⟩
    exact ⟨(symbol, line), listed, declaration, covered, rfl⟩

theorem mem_missingDeclarations_iff (found : NameMap Nat) (a : Anomaly) :
    a ∈ missingDeclarations o found d ↔ ∃ name, a = .missing name ∧ o.requireCoverage = true ∧
      name ∈ d.declaredNames ∧ o.exclusions.excludes name = false ∧ found.contains name = false := by
  unfold missingDeclarations Document.declaredNames
  cases o.requireCoverage with
  | false => simp
  | true =>
    simp only [if_true, List.mem_map, List.mem_filter, Bool.and_eq_true, Bool.not_eq_true', true_and]
    constructor
    · rintro ⟨name, ⟨declared, kept, absent⟩, rfl⟩
      exact ⟨name, rfl, declared, kept, absent⟩
    · rintro ⟨name, rfl, declared, kept, absent⟩
      exact ⟨name, ⟨declared, kept, absent⟩, rfl⟩

theorem kind_of_mem_excludedSymbols {found : NameMap Nat} {a : Anomaly}
    (member : a ∈ excludedSymbols o found) : a.kind = .excludedDeclaration := by
  obtain ⟨declaration, symbol, line, rfl, -⟩ := (mem_excludedSymbols_iff o found a).1 member
  rfl

theorem kind_of_mem_missingDeclarations {found : NameMap Nat} {a : Anomaly}
    (member : a ∈ missingDeclarations o found d) : a.kind = .missingDeclaration := by
  obtain ⟨name, rfl, -⟩ := (mem_missingDeclarations_iff d o found a).1 member
  rfl

/-- The widths of enums are neither excluded symbols nor missing declarations. -/
theorem kind_of_mem_narrowEnums {a : Anomaly} (member : a ∈ narrowEnums o text d) :
    a.kind = .widthTooNarrow ∨ a.kind = .unknownIntegerType := by
  obtain ⟨⟨name, decl⟩, -, inside⟩ := List.mem_flatMap.1 member
  rcases List.mem_append.1 inside with declared | stored
  · unfold declaredWidth at declared
    split at declared
    · rw [List.mem_singleton.1 declared]
      exact .inr rfl
    · obtain ⟨value, -, rfl⟩ := List.mem_map.1 declared
      exact .inl rfl
  · split at stored
    · cases stored
    · unfold storedWidth at stored
      split at stored
      · cases stored
      · obtain ⟨value, -, rfl⟩ := List.mem_map.1 stored
        exact .inl rfl

theorem kind_ne_of_mem_narrowEnums {a : Anomaly} (member : a ∈ narrowEnums o text d) :
    a.kind ≠ .excludedDeclaration ∧ a.kind ≠ .missingDeclaration := by
  rcases kind_of_mem_narrowEnums text d o member with kind | kind <;> rw [kind] <;> decide

theorem mem_anomalies_iff (a : Anomaly) :
    a ∈ (verify artifact text d o).anomalies ↔ a ∈ excludedSymbols o (firstLines text) ∨
      a ∈ narrowEnums o text d ∨ a ∈ missingDeclarations o (firstLines text) d := by
  simp only [verify, List.mem_append, or_assoc]

/-- A symbol that no exclusion covers is not excluded, whether derived symbols count or not. -/
theorem excludedBy?_eq_none {symbol : String}
    (uncovered : ∀ e ∈ o.exclusions.rules, e.covers symbol = false) : excludedBy? o symbol = none := by
  have nothing := (ExclusionList.covering?_eq_none_iff _ _).2 uncovered
  have kept : o.exclusions.excludes symbol ≠ true := by
    intro excluded
    have covered := ExclusionList.covering?_isSome_of_excludes excluded
    rw [nothing] at covered
    cases covered
  rw [excludedBy?, nothing, if_neg kept, Option.map_none, ite_self]

theorem excludedBy?_isSome_iff (derived : o.coverDerived = true) (symbol : String) :
    (excludedBy? o symbol).isSome = true ↔ ∃ e ∈ o.exclusions.rules, e.covers symbol = true := by
  rw [excludedBy?, if_pos derived, Option.isSome_map, ExclusionList.covering?_isSome_iff]

/-- A report is empty if nothing mentioned is excluded, no enum is too narrow, and everything that
is declared and not excluded is mentioned. -/
theorem anomalies_eq_nil (uncovered : ∀ symbol, Mentions text symbol → excludedBy? o symbol = none)
    (wide : narrowEnums o text d = [])
    (present : ∀ name ∈ d.declaredNames, o.exclusions.excludes name = false → Mentions text name) :
    (verify artifact text d o).anomalies = [] := by
  rw [List.eq_nil_iff_forall_not_mem]
  intro a member
  rcases (mem_anomalies_iff artifact text d o a).1 member with excluded | narrow | missing
  · obtain ⟨declaration, symbol, line, -, listed, covered⟩ := (mem_excludedSymbols_iff o _ a).1 excluded
    have found : (firstLines text).contains symbol = true :=
      (NameMap.contains_iff _ _).2 (List.mem_map.2 ⟨_, listed, rfl⟩)
    rw [uncovered symbol ((contains_firstLines_iff text symbol).1 found)] at covered
    cases covered
  · rw [wide] at narrow
    cases narrow
  · obtain ⟨name, -, -, declared, kept, absent⟩ := (mem_missingDeclarations_iff d o _ a).1 missing
    have found := (contains_firstLines_iff text name).2 (present name declared kept)
    exact absurd found (Bool.eq_false_iff.1 absent)

/-- Excluded are the mentioned symbols that the exclusions concern. -/
theorem findsExcluded_iff (symbol : String) :
    (verify artifact text d o).FindsExcluded symbol ↔
      Mentions text symbol ∧ (excludedBy? o symbol).isSome = true := by
  rw [← contains_firstLines_iff, NameMap.contains_iff, NameMap.mem_names_iff]
  unfold Report.FindsExcluded
  simp only [mem_anomalies_iff, mem_excludedSymbols_iff, mem_missingDeclarations_iff]
  constructor
  · rintro ⟨declaration, line, ⟨_, _, _, same, listed, covered⟩ | narrow | ⟨_, same, -⟩⟩
    · cases same
      rw [covered]
      exact ⟨⟨line, ((firstLines text).mem_entries_iff symbol line).1 listed⟩, rfl⟩
    · rcases kind_of_mem_narrowEnums text d o narrow with kind | kind <;> cases kind
    · cases same
  · rintro ⟨⟨line, found⟩, covered⟩
    obtain ⟨declaration, covered⟩ := Option.isSome_iff_exists.1 covered
    have listed := ((firstLines text).mem_entries_iff symbol line).2 found
    exact ⟨declaration, line, .inl ⟨declaration, symbol, line, rfl, listed, covered⟩⟩

/-- Missing are the declared names that are neither mentioned nor excluded. -/
theorem findsMissing_iff (name : String) :
    (verify artifact text d o).FindsMissing name ↔ o.requireCoverage = true ∧
      name ∈ d.declaredNames ∧ o.exclusions.excludes name = false ∧ ¬ Mentions text name := by
  rw [← contains_firstLines_iff, Bool.not_eq_true]
  unfold Report.FindsMissing
  rw [mem_anomalies_iff, mem_excludedSymbols_iff, mem_missingDeclarations_iff]
  constructor
  · rintro (⟨_, _, _, same, -⟩ | narrow | ⟨_, same, missing⟩)
    · cases same
    · rcases kind_of_mem_narrowEnums text d o narrow with kind | kind <;> cases kind
    · cases same
      exact missing
  · exact fun missing => .inr (.inr ⟨name, rfl, missing⟩)

end Verification

/-- Whether every artifact that mentions a name is reported for it. -/
def Forbids (d : Document) (o : VerifyOptions) (name : String) : Prop :=
  ∀ artifact text, Mentions text name → (verify artifact text d o).FindsExcluded name

/-- Whether every artifact that does not mention a name is reported for it. -/
def Demands (d : Document) (o : VerifyOptions) (name : String) : Prop :=
  ∀ artifact text, ¬ Mentions text name → (verify artifact text d o).FindsMissing name

namespace Verification

theorem forbids_iff (d : Document) (o : VerifyOptions) {name : String}
    (identifier : IsIdentifier name) : Forbids d o name ↔ (excludedBy? o name).isSome = true := by
  simp only [Forbids, findsExcluded_iff]
  exact ⟨fun all => (all "" name identifier.mentions_self).2,
    fun covered _ _ mentioned => ⟨mentioned, covered⟩⟩

theorem demands_iff (d : Document) (o : VerifyOptions) (name : String) :
    Demands d o name ↔ o.requireCoverage = true ∧ name ∈ d.declaredNames ∧
      o.exclusions.excludes name = false := by
  simp only [Demands, findsMissing_iff]
  constructor
  · intro all
    obtain ⟨coverage, declared, kept, -⟩ := all "" "" (not_mentions_empty name)
    exact ⟨coverage, declared, kept⟩
  · exact fun ⟨coverage, declared, kept⟩ _ _ absent => ⟨coverage, declared, kept, absent⟩

end Verification

/-- With both checks on, a declared name is refused and asked for at once exactly if an exclusion
covers the name without being spelled like it. -/
theorem forbids_and_demands_iff (d : Document) (o : VerifyOptions)
    (derived : o.coverDerived = true) (coverage : o.requireCoverage = true) {name : String}
    (declared : name ∈ d.declaredNames) (identifier : IsIdentifier name) :
    Forbids d o name ∧ Demands d o name ↔
      (∃ e ∈ o.exclusions.rules, e.covers name = true) ∧ o.exclusions.excludes name = false := by
  rw [forbids_iff d o identifier, demands_iff, excludedBy?_isSome_iff o derived]
  exact and_congr_right fun _ => ⟨fun demanded => demanded.2.2, fun kept => ⟨coverage, declared, kept⟩⟩

/-- An excluded declaration itself is refused and not asked for. -/
theorem not_forbids_and_demands_excluded_enum :
    let o : VerifyOptions := ⟨.withExtra ["Enum_Force_SInt8"], true, true⟩
    let d := Catalog.document .linux (.withExtra [])
    ¬ (Forbids d o "Enum_Force_SInt8" ∧ Demands d o "Enum_Force_SInt8") := by
  intro o d both
  have declared : "Enum_Force_SInt8" ∈ d.declaredNames :=
    (Catalog.mem_declaredNames_iff _ _ _).2 (.inl ⟨.sint8, by decide, rfl⟩)
  have kept := ((forbids_and_demands_iff d o rfl rfl declared (by decide)).1 both).2
  exact absurd kept (by decide)

/-- The functions of a declaration are refused and asked for, if the document was made before the
declaration was excluded. -/
theorem forbids_and_demands_print_function :
    let o : VerifyOptions := ⟨.withExtra ["Enum_Force_SInt8"], true, true⟩
    let d := Catalog.document .linux (.withExtra [])
    let name := "Enum_Force_SInt8__print_Enum_Force_SInt8"
    name ∈ d.declaredNames ∧ IsIdentifier name ∧ Forbids d o name ∧ Demands d o name := by
  intro o d name
  let print : FunctionDecl :=
    ⟨some ⟨"enums/Enum_Force_SInt8.h", 13, 1⟩, .cdecl, "void", [⟨"e", "Enum_Force_SInt8"⟩]⟩
  have kept : (name, print) ∈ Catalog.keptFunctions (.withExtra []) :=
    (Catalog.mem_keptFunctions_iff _ _).2
      (.inl ⟨.sint8, by decide, List.mem_cons_self⟩)
  have declared : name ∈ d.declaredNames :=
    (Catalog.mem_declaredNames_iff _ _ _).2 (.inr (.inl ⟨print, kept, by decide⟩))
  have identifier : IsIdentifier name := by decide
  exact ⟨declared, identifier, (forbids_iff d o identifier).2 (by decide),
    (demands_iff d o name).2 ⟨rfl, declared, by decide⟩⟩

end HeaderBindings
