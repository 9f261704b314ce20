import HeaderBindings.Proofs.Catalog.Monotone
import HeaderBindings.Proofs.Verification.Findings

/-!
# Exclusions as a set

Exclusions stand in a list that is searched from its start, but what they do depends on the set
of their declarations only. The order of the list decides nothing except which declaration a
report names for an excluded symbol. Of the names that a list is made from, the order, the
repetitions, the blanks around them and the blank ones have no effect at all; and the more of
them there are, the less is declared (`extra_names_act_as_set`).
-/

namespace HeaderBindings

open HeaderBindings.Artifact HeaderBindings.Text

/-- The symbol and the line of a finding that reports an excluded symbol. -/
def Anomaly.excludedPlace? : Anomaly → Option (String × Nat)
  | .excluded _ symbol line => some (symbol, line)
  | _ => none

namespace Report

/-- The symbols that are reported as excluded, with their lines. -/
def excludedPlaces (r : Report) : List (String × Nat) :=
  r.anomalies.filterMap Anomaly.excludedPlace?

/-- The findings that report no excluded symbol. -/
def otherFindings (r : Report) : List Anomaly :=
  r.anomalies.filter fun a => a.kind != .excludedDeclaration

end Report

namespace Verification

section Parts

variable (artifact text : String) (d : Document) (o : VerifyOptions)

theorem excludedPlace?_eq_none {a : Anomaly} (kind : a.kind ≠ .excludedDeclaration) :
    a.excludedPlace? = none := by
  cases a with
  | excluded => exact absurd rfl kind
  | _ => rfl

/-- The findings behind the excluded symbols report none. -/
theorem kind_of_mem_others {a : Anomaly}
    (member : a ∈ narrowEnums o text d ++ missingDeclarations o (firstLines text) d) :
    a.kind ≠ .excludedDeclaration := by
  rcases List.mem_append.1 member with narrow | missing
  · exact (kind_ne_of_mem_narrowEnums text d o narrow).1
  · rw [kind_of_mem_missingDeclarations d o missing]
    decide

theorem anomalies_eq : (verify artifact text d o).anomalies =
    excludedSymbols o (firstLines text) ++
      (narrowEnums o text d ++ missingDeclarations o (firstLines text) d) :=
  List.append_assoc _ _ _

/-- Excluded symbols are reported where they stand first. -/
theorem excludedPlaces_eq : (verify artifact text d o).excludedPlaces =
    ((firstLines text).entries.mergeSort visitedBefore).filter
      fun e => (excludedBy? o e.1).isSome := by
  have others : (narrowEnums o text d ++ missingDeclarations o (firstLines text) d).filterMap
      Anomaly.excludedPlace? = [] := by
    rw [List.filterMap_eq_nil_iff]
    exact fun a member => excludedPlace?_eq_none (kind_of_mem_others text d o member)
  rw [Report.excludedPlaces, anomalies_eq, List.filterMap_append, others, List.append_nil,
    excludedSymbols]
  induction (firstLines text).entries.mergeSort visitedBefore with
  | nil => rfl
  | cons e rest ih =>
    cases covered : excludedBy? o e.1 with
    | none => simpa [covered] using ih
    | some declaration => simpa [covered, Anomaly.excludedPlace?] using ih

theorem otherFindings_eq : (verify artifact text d o).otherFindings =
    narrowEnums o text d ++ missingDeclarations o (firstLines text) d := by
  have excluded : (excludedSymbols o (firstLines text)).filter
      (fun a => a.kind != .excludedDeclaration) = [] := by
    rw [List.filter_eq_nil_iff]
    intro a member
    simp [kind_of_mem_excludedSymbols o member]
  rw [Report.otherFindings, anomalies_eq, List.filter_append, excluded, List.nil_append,
    List.filter_eq_self]
  intro a member
  simpa using kind_of_mem_others text d o member

end Parts

section Congruence

variable {l m : ExclusionList} (excludes : ∀ name, l.excludes name = m.excludes name)
  (derived coverage : Bool)

include excludes

theorem excludedBy?_isSome_congr
    (covers : ∀ symbol, (l.covering? symbol).isSome = (m.covering? symbol).isSome)
    (symbol : String) : (excludedBy? ⟨l, derived, coverage⟩ symbol).isSome =
      (excludedBy? ⟨m, derived, coverage⟩ symbol).isSome := by
  cases derived with
  | true => simpa [excludedBy?] using covers symbol
  | false => simp [excludedBy?, excludes]

theorem narrowEnums_congr (text : String) (d : Document) :
    narrowEnums ⟨l, derived, coverage⟩ text d = narrowEnums ⟨m, derived, coverage⟩ text d := by
  simp only [narrowEnums, excludes]

theorem missingDeclarations_congr (found : NameMap Nat) (d : Document) :
    missingDeclarations ⟨l, derived, coverage⟩ found d =
      missingDeclarations ⟨m, derived, coverage⟩ found d := by
  simp only [missingDeclarations, excludes]

end Congruence

end Verification

/-- Whether nothing but the declaration that is named for an excluded symbol tells two lists of
exclusions apart. -/
structure ExclusionList.Alike (l m : ExclusionList) : Prop where
  excludes : ∀ name, l.excludes name = m.excludes name
  covers : ∀ symbol, (l.covering? symbol).isSome = (m.covering? symbol).isSome
  documents : ∀ p, Catalog.document p l = Catalog.document p m
  places : ∀ artifact text d derived coverage,
    (verify artifact text d ⟨l, derived, coverage⟩).excludedPlaces =
      (verify artifact text d ⟨m, derived, coverage⟩).excludedPlaces
  others : ∀ artifact text d derived coverage,
    (verify artifact text d ⟨l, derived, coverage⟩).otherFindings =
      (verify artifact text d ⟨m, derived, coverage⟩).otherFindings

namespace ExclusionList

open Verification in
/-- Exclusions of the same declarations are alike. -/
theorem alike_of_excludes {l m : ExclusionList}
    (same : ∀ name, l.excludes name = true ↔ m.excludes name = true) : l.Alike m := by
  have excludes : ∀ name, l.excludes name = m.excludes name := fun name =>
    Bool.eq_iff_iff.2 (same name)
  have covers : ∀ symbol, (l.covering? symbol).isSome = (m.covering? symbol).isSome := fun symbol =>
    Bool.eq_iff_iff.2 ⟨covering?_isSome_of_within fun name => (same name).1,
      covering?_isSome_of_within fun name => (same name).2⟩
  refine ⟨excludes, covers, fun p => Catalog.document_congr p excludes covers, ?_, ?_⟩
  · intro artifact text d derived coverage
    rw [excludedPlaces_eq, excludedPlaces_eq]
    simp only [excludedBy?_isSome_congr excludes derived coverage covers]
  · intro artifact text d derived coverage
    rw [otherFindings_eq, otherFindings_eq, narrowEnums_congr excludes,
      missingDeclarations_congr excludes]

theorem excludes_withExtra_of_subset {extra further : List String}
    (subset : extraDeclarations extra ⊆ extraDeclarations further) (name : String)
    (excluded : (withExtra extra).excludes name = true) :
    (withExtra further).excludes name = true := by
  rw [excludes_withExtra_iff] at excluded ⊢
  exact excluded.imp_right fun listed => subset listed

end ExclusionList

open ExclusionList in
/-- Extra names act by the set of declarations that they stand for: names of the same set make
exclusions that are alike, and names of a greater set narrow the document of every platform. The
declarations of the list that is made are distinct, not blank and trimmed, and they make the same
list again. -/
theorem extra_names_act_as_set (extra further : List String) :
    ((∀ name, name ∈ extraDeclarations extra ↔ name ∈ extraDeclarations further) →
      (withExtra extra).Alike (withExtra further)) ∧
    (extraDeclarations extra ⊆ extraDeclarations further →
      ∀ p, (Catalog.document p (withExtra further)).Narrows
        (Catalog.document p (withExtra extra))) ∧
    (withExtra extra).Tidy ∧ withExtra (withExtra extra).declarations = withExtra extra := by
  refine ⟨fun same => ?_, fun subset p => ?_, tidy_withExtra extra, withExtra_declarations extra⟩
  · have left : extraDeclarations extra ⊆ extraDeclarations further := fun name => (same name).1
    have right : extraDeclarations further ⊆ extraDeclarations extra := fun name => (same name).2
    exact alike_of_excludes fun name =>
      ⟨excludes_withExtra_of_subset left name, excludes_withExtra_of_subset right name⟩
  · exact Catalog.document_narrows p (excludes_withExtra_of_subset subset)

open ExclusionList in
/-- Order, repetitions, blanks and a built-in name among the extra names have no effect, and a
further name takes its enum out of the document. -/
theorem extra_names_act_as_set_samples :
    let padded := [" Legacy_Type\t", "", "EnumIgnored", "Enum_Force_SInt8", "Legacy_Type"]
    let plain := ["Enum_Force_SInt8", "Legacy_Type"]
    (withExtra padded).Alike (withExtra plain) ∧
      (Catalog.document .linux (withExtra plain)).Narrows
        (Catalog.document .linux (withExtra ["Legacy_Type"])) := by
  intro padded plain
  have left : extraDeclarations padded ⊆ extraDeclarations plain := by decide
  have right : extraDeclarations plain ⊆ extraDeclarations padded := by decide
  have fewer : extraDeclarations ["Legacy_Type"] ⊆ extraDeclarations plain := by decide
  exact ⟨(extra_names_act_as_set padded plain).1 fun name => ⟨@left name, @right name⟩,
    (extra_names_act_as_set ["Legacy_Type"] plain).2.1 fewer .linux⟩

end HeaderBindings
