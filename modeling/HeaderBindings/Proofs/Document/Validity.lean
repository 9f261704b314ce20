import HeaderBindings.Document.Validation
import HeaderBindings.Proofs.Declared

/-!
# Valid documents

Validation looks for a fault in one declaration after another, and what it finds in a
declaration depends on nothing but the declaration and its name. So a document is valid if
and only if none of its declarations has a fault (`validate_eq_ok_iff`), and a document
whose declarations all come from valid documents is valid.
-/

namespace HeaderBindings.Document

open HeaderBindings.Text

/-- The first fault of a declaration of any kind. -/
def declFault? (name : String) : Decl → Option Fault
  | .enum decl => enumFault? name decl
  | .function decl => functionFault? name decl
  | .opaqueType decl => opaqueFault? name decl

/-- The values of an enum have no fault if their names are not blank, different from each other and
different from those seen before. -/
theorem valuesFault?_eq_none_iff (enum : String) (seen : List String) (values : List Enumerator) :
    valuesFault? enum seen values = none ↔ (∀ v ∈ values, isBlankText v.name = false) ∧
      (values.map (·.name)).Nodup ∧ ∀ v ∈ values, v.name ∉ seen := by
  induction values generalizing seen with
  | nil => simp [valuesFault?]
  | cons v rest ih =>
    unfold valuesFault?
    cases blank : isBlankText v.name with
    | true => simp [blank]
    | false =>
      by_cases known : v.name ∈ seen
      · simp [known]
      · rw [if_neg Bool.false_ne_true, if_neg (by simpa using known), ih, List.forall_mem_cons,
          List.forall_mem_cons, List.map_cons, List.nodup_cons]
        constructor
        · rintro ⟨nonblank, distinct, fresh⟩
          refine ⟨⟨blank, nonblank⟩, ⟨fun repeated => ?_, distinct⟩, known,
            fun w later earlier => ?_⟩
          · obtain ⟨w, later, same⟩ := List.mem_map.1 repeated
            exact fresh w later (same ▸ List.mem_cons_self)
          · exact fresh w later (List.mem_cons_of_mem _ earlier)
        · rintro ⟨⟨-, nonblank⟩, ⟨different, distinct⟩, -, fresh⟩
          refine ⟨nonblank, distinct, fun w later repeated => ?_⟩
          rcases List.mem_cons.1 repeated with same | earlier
          · exact different (List.mem_map.2 ⟨w, later, same⟩)
          · exact fresh w later earlier

theorem enumFault?_eq_none_iff (name : String) (decl : EnumDecl) :
    enumFault? name decl = none ↔ isBlankText name = false ∧ decl.values ≠ [] ∧
      decl.integerType.size ≠ 0 ∧ (∀ v ∈ decl.values, isBlankText v.name = false) ∧
      (decl.values.map (·.name)).Nodup := by
  have fresh : valuesFault? name [] decl.values = none ↔
      (∀ v ∈ decl.values, isBlankText v.name = false) ∧ (decl.values.map (·.name)).Nodup := by
    rw [valuesFault?_eq_none_iff]
    simp
  rw [← fresh, enumFault?]
  cases isBlankText name with
  | true => simp
  | false =>
    by_cases empty : decl.values = []
    · simp [empty]
    · by_cases zero : decl.integerType.size = 0
      · simp [empty, zero]
      · simp [empty, zero]

theorem validate_eq_ok_iff_fault? (d : Document) : d.validate = .ok () ↔ d.fault? = none := by
  unfold validate
  cases d.fault? with
  | none => simp
  | some fault => simp

theorem findSome?_entries_eq_none_iff {α : Type} (m : NameMap α)
    (fault? : String → α → Option Fault) :
    (m.entries.findSome? fun e => fault? e.1 e.2) = none ↔
      ∀ name value, m.find? name = some value → fault? name value = none := by
  rw [List.findSome?_eq_none_iff]
  constructor
  · intro faultless name value found
    exact faultless (name, value) ((NameMap.mem_entries_iff m name value).2 found)
  · rintro faultless ⟨name, value⟩ listed
    exact faultless name value ((NameMap.mem_entries_iff m name value).1 listed)

/-- A document is valid if and only if no declaration in it has a fault. -/
theorem validate_eq_ok_iff (d : Document) : d.validate = .ok () ↔
    ∀ name, ∀ decl ∈ d.declarationsOf name, declFault? name decl = none := by
  rw [validate_eq_ok_iff_fault?, fault?]
  simp only [Option.orElse_eq_orElse, Option.orElse_eq_or, Option.or_eq_none_iff,
    findSome?_entries_eq_none_iff]
  constructor
  · rintro ⟨enums, functions, opaqueTypes⟩ name decl declared
    cases decl with
    | enum decl => exact enums name decl ((enum_mem_declarationsIn _ _ _ _ _).1 declared)
    | function decl =>
      exact functions name decl ((function_mem_declarationsIn _ _ _ _ _).1 declared)
    | opaqueType decl =>
      exact opaqueTypes name decl ((opaqueType_mem_declarationsIn _ _ _ _ _).1 declared)
  · intro faultless
    refine ⟨fun name decl found => ?_, fun name decl found => ?_, fun name decl found => ?_⟩
    · exact faultless name (.enum decl) ((enum_mem_declarationsIn _ _ _ _ _).2 found)
    · exact faultless name (.function decl) ((function_mem_declarationsIn _ _ _ _ _).2 found)
    · exact faultless name (.opaqueType decl) ((opaqueType_mem_declarationsIn _ _ _ _ _).2 found)

end HeaderBindings.Document
