import HeaderBindings.Command
import HeaderBindings.Proofs.Export

/-!
# Printing values

The print command hands values to the exported function until one is refused, so what it has written
when it fails depends on where the first refused value stands. It writes one decimal line for each
value before the first one that the declared integer type does not hold, fails with an error about
that value, and succeeds if there is none (`printCommand_writes_held_values`).
-/

namespace HeaderBindings

open HeaderBindings.Text

/-- One decimal line for each value. -/
def decimalLines (values : List Int) : String :=
  String.join (values.map fun v => Decimal.ofInt v ++ "\n")

theorem decimalLines_cons (v : Int) (values : List Int) :
    decimalLines (v :: values) = Decimal.ofInt v ++ "\n" ++ decimalLines values := by
  simp [decimalLines]

theorem Export.find?_eq_none_iff (name : String) :
    Export.find? name = none ↔ ∀ e ∈ Catalog.entries, e.name ≠ name := by
  simp only [Export.find?, List.find?_eq_none, beq_iff_eq, Export.mem_all_iff,
    Catalog.mem_entries_iff, forall_exists_index, forall_apply_eq_imp_iff]
  rfl

/-- The transcript of a failure without a cause. -/
theorem transcript_failure (output message : String) (verbose : Bool) :
    (Outcome.failure output [] ⟨message, none⟩).transcript verbose =
      ⟨output, ["Error: " ++ message], 1⟩ := by
  simp [Outcome.failure, Outcome.transcript, Outcome.shown, Failure.text]

/-- Printing goes on behind what has been written and ends at the first value that is not held. -/
theorem printValues_exported (f : Family) (enum written : String) (values : List Int) :
    printValues enum f.exported written values =
      let output := written ++ decimalLines (values.takeWhile f.integerType.holds)
      match values.find? fun v => !f.integerType.holds v with
      | none => .success output []
      | some v =>
        .failure output [] ⟨Decimal.ofInt v ++ " does not fit the storage of " ++ enum, none⟩ := by
  induction values generalizing written with
  | nil => simp [printValues, decimalLines]
  | cons v rest ih =>
    rw [printValues, f.printNatively_exported]
    cases held : f.integerType.holds v with
    | true =>
      simp only [if_true, ih, List.takeWhile_cons, List.find?_cons, held, Bool.not_true,
        decimalLines_cons, String.append_assoc]
    | false => simp [held, decimalLines]

/-- Printing values of a name that has no export writes nothing and fails. Otherwise the values
before the first one that the integer type of the enum does not hold are written, one decimal line
each and in order; printing succeeds if and only if there is no such value, and else fails with an
error about that value. -/
theorem printCommand_writes_held_values (name : String) (values : List Int) (verbose : Bool) :
    let run := (printCommand name values).transcript verbose
    (Export.find? name = none ↔ ∀ e ∈ Catalog.entries, e.name ≠ name) ∧
    (Export.find? name = none →
      run = ⟨"", ["Error: no exported enum named " ++ quoted name], 1⟩) ∧
    ∀ e ∈ Catalog.entries, e.name = name →
      run.output = decimalLines (values.takeWhile e.integerType.holds) ∧
      (run.exitCode = 0 ↔ ∀ v ∈ values, e.integerType.holds v = true) ∧
      ∀ v, values.find? (fun w => !e.integerType.holds w) = some v → run.exitCode = 1 ∧
        run.reports = ["Error: " ++ Decimal.ofInt v ++ " does not fit the storage of " ++ name] := by
  intro run
  refine ⟨Export.find?_eq_none_iff name, fun unexported => ?_, fun e entry named => ?_⟩
  · simp only [run, printCommand, unexported, transcript_failure, ← String.append_assoc]
    rfl
  · obtain ⟨f, rfl⟩ := (Catalog.mem_entries_iff e).1 entry
    subst named
    have printed := printValues_exported f f.name "" values
    simp only [String.empty_append] at printed
    simp only [run, Catalog.entryOf, printCommand, f.find?_name, printed]
    cases first : values.find? fun w => !f.integerType.holds w with
    | none =>
      have held : ∀ v ∈ values, f.integerType.holds v = true := by
        simpa [List.find?_eq_none] using first
      simpa [Outcome.success, Outcome.transcript] using held
    | some v =>
      have refused : f.integerType.holds v = false := by
        simpa using List.find?_some first
      have escaped : ¬ ∀ w ∈ values, f.integerType.holds w = true := by
        intro held
        simp [held v (List.mem_of_find?_eq_some first)] at refused
      simp [transcript_failure, escaped, String.append_assoc]

/-- Values up to the first one that is too great for 8 bits, and a name that has no export. -/
theorem printCommand_writes_held_samples :
    let e := Catalog.entryOf .uint8
    let run := (printCommand "Enum_Force_UInt8" [0, 255, 256, 1]).transcript false
    e ∈ Catalog.entries ∧ e.name = "Enum_Force_UInt8" ∧ run.output = "0\n255\n" ∧
      run.exitCode = 1 ∧
      run.reports = ["Error: " ++ Decimal.ofInt 256 ++ " does not fit the storage of " ++
        "Enum_Force_UInt8"] ∧
      Export.find? "EnumForceUInt8" = none ∧
      ((printCommand "EnumForceUInt8" [0]).transcript false).output = "" := by
  intro e run
  have entry : e ∈ Catalog.entries := Catalog.entryOf_mem _
  have named : e.name = "Enum_Force_UInt8" := by decide
  obtain ⟨output, -, refused⟩ :=
    (printCommand_writes_held_values "Enum_Force_UInt8" [0, 255, 256, 1] false).2.2 e entry named
  obtain ⟨code, reports⟩ := refused 256 (by decide)
  have missing : Export.find? "EnumForceUInt8" = none := by
    rw [Export.find?_eq_none_iff]
    decide
  have nothing := (printCommand_writes_held_values "EnumForceUInt8" [0] false).2.1 missing
  exact ⟨entry, named, output.trans (by decide +kernel), code, reports, missing,
    congrArg Transcript.output nothing⟩

end HeaderBindings
