import HeaderBindings.Family
import HeaderBindings.Proofs.IntegerType.Word
import Mathlib.Data.List.Nodup

/-!
# Storage and constants of the families

A family is given a storage and an integer type, one beside the other. They agree in width and
signedness, so the storage has exactly the integers that the type holds
(`Family.holds_iff_inRange`).

Three things are known of an integer: whether the storage of a family has it, whether it is the
value of a declared constant, and what the constant is called. They are looked up separately, but
as the constants of a family have different values, they agree on every integer: decoding gives the
stored value exactly if it has a name, and there is one constant with that name
(`decode_agrees_with_constants`).
-/

namespace HeaderBindings

namespace Family

theorem mem_all (f : Family) : f ∈ Family.all := by
  cases f <;> decide

theorem ofName?_name (f : Family) : ofName? f.name = some f := by
  have table : ∀ f ∈ all, ofName? f.name = some f := by decide
  exact table f f.mem_all

/-- The declared integer type is as wide as the storage, and has a sign if the storage has one. -/
theorem integerType_agrees (f : Family) :
    f.integerType.width.bits = f.storage.bits ∧ f.integerType.signed = f.storage.signed := by
  cases f <;> decide

/-- The declared integer type holds the integers that the storage has. -/
theorem holds_iff_inRange (f : Family) (v : Int) :
    f.integerType.holds v = true ↔ Word.InRange f.storage.bits f.storage.signed v := by
  obtain ⟨width, signed⟩ := f.integerType_agrees
  rw [IntegerType.holds_iff_inRange, width, signed]

theorem holds_constant {f : Family} {c : Enumerator} (declared : c ∈ f.constants) :
    f.integerType.holds c.value.toInt = true := by
  have table : ∀ f ∈ all, ∀ c ∈ f.constants, f.integerType.holds c.value.toInt = true := by decide
  exact table f f.mem_all c declared

theorem constants_values_nodup (f : Family) : (f.constants.map (·.value.toInt)).Nodup := by
  have table : ∀ f ∈ all, (f.constants.map (·.value.toInt)).Nodup := by decide
  exact table f f.mem_all

/-- A constant is the only one with its value. -/
theorem filter_constants_eq {f : Family} {c : Enumerator} (member : c ∈ f.constants) :
    (f.constants.filter fun d => d.value.toInt == c.value.toInt) = [c] := by
  have distinct := f.constants_values_nodup
  have same : (f.constants.filter fun d => d.value.toInt == c.value.toInt) =
      f.constants.filter (· == c) := by
    refine List.filter_congr fun d other => ?_
    rw [Bool.eq_iff_iff, beq_iff_eq, beq_iff_eq]
    constructor
    · exact fun value => List.inj_on_of_nodup_map distinct other member value
    · rintro rfl
      rfl
  rw [same, List.filter_beq, List.count_eq_one_of_mem distinct.of_map member, List.replicate_one]

end Family

namespace EnumValue

variable {f : Family}

theorem ofInt?_eq_some_iff {v : Int} {e : EnumValue f} : ofInt? f v = some e ↔ Word.value e = v :=
  Word.ofInt?_eq_some_iff

/-- The storage has an integer exactly if the declared integer type holds it. -/
theorem ofInt?_cases (f : Family) (v : Int) :
    (f.integerType.holds v = true ∧ ∃ e, ofInt? f v = some e ∧ Word.value e = v) ∨
      (f.integerType.holds v = false ∧ ofInt? f v = none) := by
  rw [← Bool.not_eq_true, f.holds_iff_inRange]
  cases stored : ofInt? f v with
  | none => exact .inr ⟨(Word.ofInt?_eq_none_iff f.storage.bits_pos).1 stored, rfl⟩
  | some e =>
    have value := ofInt?_eq_some_iff.1 stored
    exact .inl ⟨value ▸ Word.inRange_value e, e, rfl, value⟩

/-- The name of a value is that of the first constant that has it. -/
theorem constantName?_eq (e : EnumValue f) : constantName? e =
    (f.constants.filter fun c => c.value.toInt == Word.value e).head?.map (·.name) := by
  rw [constantName?, List.head?_filter]

theorem constantName?_of_mem {e : EnumValue f} {c : Enumerator} (member : c ∈ f.constants)
    (same : c.value.toInt = Word.value e) : constantName? e = some c.name := by
  rw [constantName?_eq, ← same, Family.filter_constants_eq member]
  rfl

theorem constantName?_isSome_iff (e : EnumValue f) :
    (constantName? e).isSome = true ↔ ∃ c ∈ f.constants, c.value.toInt = Word.value e := by
  simp only [constantName?, Option.isSome_map, List.find?_isSome, beq_iff_eq]

theorem decode_eq_ok_iff (v : Int) (e : EnumValue f) : decode f v = .ok e ↔
    ofInt? f v = some e ∧ ∃ c ∈ f.constants, c.value.toInt = v := by
  unfold decode
  cases ofInt? f v with
  | none => simp
  | some stored =>
    have declared : (f.constants.any fun c => c.value.toInt == v) = true ↔
        ∃ c ∈ f.constants, c.value.toInt = v := by
      simp only [List.any_eq_true, beq_iff_eq]
    rw [← declared, Option.some.injEq]
    cases f.constants.any fun c => c.value.toInt == v with
    | true => simp
    | false => simp

theorem decode_eq_error {v : Int} (undecoded : ∀ e, decode f v ≠ .ok e) :
    decode f v = .error (.unrecognizedDiscriminant f.name v) := by
  unfold decode at undecoded ⊢
  split
  · rename_i e stored
    simp only [stored] at undecoded
    split
    · rename_i declared
      rw [if_pos declared] at undecoded
      exact absurd rfl (undecoded e)
    · rfl
  · rfl

/-- A value that the storage has is decoded exactly if it has a name. -/
theorem decode_eq_ok_iff_named (v : Int) (e : EnumValue f) :
    decode f v = .ok e ↔ ofInt? f v = some e ∧ (constantName? e).isSome = true := by
  rw [decode_eq_ok_iff, constantName?_isSome_iff]
  refine and_congr_right fun stored => ?_
  rw [ofInt?_eq_some_iff.1 stored]

end EnumValue

/-- For every family and integer, decoding gives a value exactly if the storage has the integer and
the value has a name. The value then stands for the integer, which one constant has, and the name
is that of the constant. Otherwise the error tells the family and the integer. -/
theorem decode_agrees_with_constants (f : Family) (v : Int) :
    (∀ e, EnumValue.decode f v = .ok e ↔
      EnumValue.ofInt? f v = some e ∧ (EnumValue.constantName? e).isSome = true) ∧
    (∀ e, EnumValue.decode f v = .ok e → Word.value e = v ∧
      ∃ c, (f.constants.filter fun d => d.value.toInt == v) = [c] ∧
        EnumValue.constantName? e = some c.name) ∧
    ((¬ ∃ e, EnumValue.ofInt? f v = some e ∧ (EnumValue.constantName? e).isSome = true) →
      EnumValue.decode f v = .error (.unrecognizedDiscriminant f.name v)) := by
  refine ⟨EnumValue.decode_eq_ok_iff_named v, fun e decoded => ?_, fun undeclared => ?_⟩
  · obtain ⟨stored, c, member, value⟩ := (EnumValue.decode_eq_ok_iff v e).1 decoded
    have same : Word.value e = v := EnumValue.ofInt?_eq_some_iff.1 stored
    refine ⟨same, c, ?_, EnumValue.constantName?_of_mem member (value.trans same.symm)⟩
    rw [← value]
    exact Family.filter_constants_eq member
  · refine EnumValue.decode_eq_error fun e decoded => undeclared ?_
    exact ⟨e, (EnumValue.decode_eq_ok_iff_named v e).1 decoded⟩

/-- The sentinel of 32 bits in a storage of 64 bits, and an integer next to the days. -/
theorem decode_agrees_with_constants_samples :
    let f := Family.uint64
    let e : EnumValue f := Word.truncate f.storage.bits f.storage.signed 0xFFFFFFFF
    EnumValue.decode f 0xFFFFFFFF = .ok e ∧ Word.value e = 0xFFFFFFFF ∧
      (∃ c, (f.constants.filter fun d => d.value.toInt == 0xFFFFFFFF) = [c] ∧
        EnumValue.constantName? e = some c.name) ∧
      (¬ ∃ e, EnumValue.ofInt? f 6 = some e ∧ (EnumValue.constantName? e).isSome = true) ∧
      EnumValue.decode f 6 = .error (.unrecognizedDiscriminant f.name 6) := by
  intro f e
  have decoded : EnumValue.decode f 0xFFFFFFFF = .ok e := by decide
  have undeclared :
      ¬ ∃ e, EnumValue.ofInt? f 6 = some e ∧ (EnumValue.constantName? e).isSome = true := by
    rintro ⟨e, stored, named⟩
    have six : EnumValue.ofInt? f 6 = some (Word.truncate f.storage.bits f.storage.signed 6) := by
      decide
    rw [← Option.some.inj (six.symm.trans stored)] at named
    exact absurd named (by decide)
  obtain ⟨value, constant⟩ := (decode_agrees_with_constants f 0xFFFFFFFF).2.1 e decoded
  exact ⟨decoded, value, constant, undeclared,
    (decode_agrees_with_constants f 6).2.2 undeclared⟩

end HeaderBindings
