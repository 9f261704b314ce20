import HeaderBindings.Conformance
import HeaderBindings.Proofs.Export

/-!
# What the checks of an enum tell

A check compares two texts, so what it tells about the exported functions depends on how these
texts are made. The texts tell everything apart that has to be: a decimal text belongs to one
integer, it is none of the words for a refusal, and several lines shown in one text are never a
decimal text, since the break between them is not. So the checks of an enum pass exactly if its
functions obey the laws, whatever these functions are (`enum_checks_pass_iff`).
-/

namespace HeaderBindings

/-- Whether the functions exported for an enum obey the laws, as far as its constants, its sentinel
and the greatest integer of its type tell. -/
structure CatalogEntry.Lawful (e : CatalogEntry) (sentinel : Enumerator) : Prop where
  identity : ∀ c ∈ e.constants, e.exported.identity c.value.toInt = some c.value.toInt
  print : ∀ c ∈ e.constants, ∃ line, e.exported.print c.value.toInt = ⟨true, [line]⟩ ∧
    Decimal.IsTextOf line c.value.toInt
  sentinelHeld : e.integerType.holds sentinel.value.toInt = true
  sentinelTaken : (e.exported.identity sentinel.value.toInt).isSome = true
  greatest : e.exported.identity e.integerType.greatest = some e.integerType.greatest
  beyond : e.exported.identity (e.integerType.greatest + 1) = none

namespace Conformance

theorem returned_eq_iff (expected observed : Option Int) :
    returned expected = returned observed ↔ observed = expected := by
  have refused : ∀ i, Decimal.ofInt i ≠ "<rejected>" := by
    apply Decimal.ofInt_ne_of_mem (c := '<') <;> decide
  cases expected with
  | none =>
    cases observed with
    | none => simp
    | some j => simpa [returned] using (refused j).symm
  | some i =>
    cases observed with
    | none => simpa [returned] using refused i
    | some j =>
      simp only [returned, Decimal.ofInt_inj, Option.some.injEq]
      exact eq_comm

/-- Lines shown in one text are the decimal text of an integer only if there is one line. -/
theorem intercalate_eq_ofInt_iff (lines : List String) (i : Int) :
    "\\n".intercalate lines = Decimal.ofInt i ↔ lines = [Decimal.ofInt i] := by
  cases lines with
  | nil => simpa using (Decimal.ofInt_ne_empty i).symm
  | cons line rest =>
    cases rest with
    | nil => simp
    | cons next others =>
      have broken : '\\' ∈ ("\\n".intercalate (line :: next :: others)).toList := by
        rw [String.intercalate_cons_cons, String.toList_append, String.toList_append]
        simp
      have different := Decimal.ofInt_ne_of_mem broken (by decide) i
      simpa using different.symm

theorem ofInt_eq_printed_iff (i : Int) (p : Printed) :
    Decimal.ofInt i = printed p ↔ p = ⟨true, [Decimal.ofInt i]⟩ := by
  obtain ⟨accepted, lines⟩ := p
  unfold printed
  cases accepted with
  | true =>
    rw [if_pos rfl, eq_comm, intercalate_eq_ofInt_iff]
    simp
  | false =>
    have refused : Decimal.ofInt i ≠ "<out of range>" := by
      apply Decimal.ofInt_ne_of_mem (c := '<') <;> decide
    simpa using refused

theorem fitting_eq_iff (fits : Bool) : fitting true = fitting fits ↔ fits = true := by
  cases fits <;> decide

@[simp] theorem passed_of (law : Law) (subject input expected observed : String) :
    (Check.of law subject input expected observed).passed = true ↔ expected = observed := by
  simp [Check.of]

theorem constantChecks_pass_iff (e : Export) (c : Enumerator) :
    (∀ check ∈ constantChecks e c, check.passed = true) ↔
      e.identity c.value.toInt = some c.value.toInt ∧
      e.print c.value.toInt = ⟨true, [Decimal.ofInt c.value.toInt]⟩ := by
  have identity := returned_eq_iff (some c.value.toInt) (e.identity c.value.toInt)
  have print := ofInt_eq_printed_iff c.value.toInt (e.print c.value.toInt)
  rw [← identity, ← print]
  simp [constantChecks, returned]

theorem widthChecks_pass_iff {e : CatalogEntry} {sentinel : Enumerator}
    (last : e.sentinel? = some sentinel) :
    (∀ check ∈ widthChecks e, check.passed = true) ↔
      (e.integerType.holds sentinel.value.toInt = true ∧
        (e.exported.identity sentinel.value.toInt).isSome = true) ∧
      e.exported.identity e.integerType.greatest = some e.integerType.greatest ∧
      e.exported.identity (e.integerType.greatest + 1) = none := by
  rw [← Bool.and_eq_true, ← fitting_eq_iff, ← returned_eq_iff, ← returned_eq_iff]
  simp [widthChecks, last]

end Conformance

/-- The checks of an enum pass exactly if its exported functions return and print every constant,
take the last one, which its integer type holds, and return the greatest integer of the type and
refuse the next one. This holds for all functions, also for those that print several lines. -/
theorem enum_checks_pass_iff (e : CatalogEntry) (declared : e.constants ≠ []) :
    (∀ check ∈ Conformance.enumChecks e, check.passed = true) ↔
      e.Lawful (e.constants.getLast declared) := by
  have last : e.sentinel? = some (e.constants.getLast declared) :=
    List.getLast?_eq_some_getLast declared
  have text : ∀ c : Enumerator,
      (∃ line, e.exported.print c.value.toInt = ⟨true, [line]⟩ ∧
        Decimal.IsTextOf line c.value.toInt) ↔
      e.exported.print c.value.toInt = ⟨true, [Decimal.ofInt c.value.toInt]⟩ := by
    simp [Decimal.isTextOf_iff]
  rw [Conformance.enumChecks, List.forall_mem_append, List.forall_mem_flatMap,
    Conformance.widthChecks_pass_iff last]
  simp only [Conformance.constantChecks_pass_iff]
  constructor
  · intro ⟨constants, ⟨held, taken⟩, greatest, beyond⟩
    exact ⟨fun c listed => (constants c listed).1, fun c listed => (text c).2 (constants c listed).2,
      held, taken, greatest, beyond⟩
  · intro lawful
    exact ⟨fun c listed => ⟨lawful.identity c listed, (text c).1 (lawful.print c listed)⟩,
      ⟨lawful.sentinelHeld, lawful.sentinelTaken⟩, lawful.greatest, lawful.beyond⟩

namespace Family

/-- The enums of the catalog obey the laws. -/
theorem lawful_entryOf (f : Family) : (Catalog.entryOf f).Lawful f.sentinel := by
  have identity : ∀ v, f.integerType.holds v = true → f.exported.identity v = some v := by
    intro v held
    rw [identity_exported, if_pos held]
  have sentinel : f.sentinel ∈ f.constants := List.mem_append_right _ List.mem_cons_self
  obtain ⟨greatest, beyond⟩ := f.integerType.holds_greatest
  exact {
    identity := fun c declared => identity _ (holds_constant declared)
    print := fun c declared => ⟨Decimal.ofInt c.value.toInt,
      (f.print_exported _).trans (if_pos (holds_constant declared)),
      (Decimal.isTextOf_iff _ _).2 rfl⟩
    sentinelHeld := holds_constant sentinel
    sentinelTaken := Option.isSome_iff_exists.2 ⟨_, identity _ (holds_constant sentinel)⟩
    greatest := identity _ greatest
    beyond := (f.identity_exported _).trans (if_neg (Bool.eq_false_iff.1 beyond)) }

end Family

/-- An entry whose print function writes an empty line behind every value. -/
def CatalogEntry.withEmptyLines (e : CatalogEntry) : CatalogEntry :=
  { e with exported := { e.exported with print := fun v => ⟨true, [Decimal.ofInt v, ""]⟩ } }

/-- The checks of an enum with a sentinel narrower than its storage pass, and they notice an empty
line. -/
theorem enum_checks_pass_samples :
    let e := Catalog.entryOf .sint64
    e.constants ≠ [] ∧ (∀ check ∈ Conformance.enumChecks e, check.passed = true) ∧
      ¬ ∀ check ∈ Conformance.enumChecks e.withEmptyLines, check.passed = true := by
  intro e
  have declared : e.constants ≠ [] := by decide
  refine ⟨declared, (enum_checks_pass_iff e declared).2 (Family.lawful_entryOf _), fun passed => ?_⟩
  have lawful := (enum_checks_pass_iff e.withEmptyLines declared).1 passed
  obtain ⟨line, single, -⟩ := lawful.print Family.sint64.sentinel (by decide)
  have lines : 2 = 1 := congrArg (fun p : Printed => p.lines.length) single
  exact absurd lines (by decide)

end HeaderBindings
