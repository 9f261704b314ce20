import HeaderBindings.Proofs.IntegerType
import HeaderBindings.Proofs.IntegerType.Word

/-!
# The narrowest integer type

The integer types of one signedness are tried from narrow to wide (`candidates_increasing`), so the
first one that holds a value is the least one (`narrowest?_eq_some_iff`). Wider types of the same
signedness hold more (`holds_widen`), so there is such a type exactly for the values of 64 bits
(`narrowest?_eq_none_iff`).

A type that holds a value also holds every smaller value that is not negative (`holds_of_le`). So
the narrowest type grows with the value; below zero it grows the other way.
-/

namespace HeaderBindings

theorem Width.bytes_le_w64 (w : Width) : w.bytes ≤ Width.w64.bytes := by
  cases w <;> decide

namespace IntegerType

/-- The integer types of a signedness, from narrow to wide. -/
def candidates (signed : Bool) : List IntegerType :=
  Width.all.map fun w => ⟨w, signed⟩

/-- Whether a value lies in the range of 64 bits of a signedness. -/
def InRange64 (signed : Bool) (v : Int) : Prop :=
  if signed then -0x8000000000000000 ≤ v ∧ v ≤ 0x7FFFFFFFFFFFFFFF
  else 0 ≤ v ∧ v ≤ 0xFFFFFFFFFFFFFFFF

instance (signed : Bool) (v : Int) : Decidable (InRange64 signed v) :=
  inferInstanceAs (Decidable (if signed then _ else _))

theorem mem_candidates_iff (signed : Bool) (t : IntegerType) :
    t ∈ candidates signed ↔ t.signed = signed := by
  obtain ⟨width, other⟩ := t
  have listed : width ∈ Width.all := by cases width <;> decide
  simp [candidates, listed, eq_comm]

theorem candidates_increasing (signed : Bool) :
    (candidates signed).Pairwise fun t u => t.size < u.size := by
  cases signed <;> decide

theorem eq_of_size_eq {t u : IntegerType} (signed : t.signed = u.signed) (size : t.size = u.size) :
    t = u :=
  Option.some.inj <|
    ((ofSize?_eq_some_iff t.size t.signed t).2 ⟨rfl, rfl⟩).symm.trans
      ((ofSize?_eq_some_iff t.size t.signed u).2 ⟨size, signed⟩)

section Ranges

variable {t u : IntegerType} {v w : Int}

/-- The range of an integer type lies in that of every wider one. -/
theorem holds_widen (signed : t.signed = u.signed) (wider : t.size ≤ u.size)
    (held : t.holds v = true) : u.holds v = true := by
  have bits : t.width.bits ≤ u.width.bits := Nat.mul_le_mul_left 8 wider
  have half := Int.ofNat_le.2 (Nat.pow_le_pow_right Nat.two_pos (Nat.sub_le_sub_right bits 1))
  have whole := Int.ofNat_le.2 (Nat.pow_le_pow_right Nat.two_pos bits)
  simp only [holds_iff, least, greatest, signed, Nat.pow_eq] at held ⊢
  split
  · rename_i both
    simp only [both, if_true] at held
    omega
  · rename_i both
    simp only [both, Bool.false_eq_true, if_false] at held
    omega

theorem least_nonpos (t : IntegerType) : t.least ≤ 0 := by
  unfold least
  split
  · exact Int.neg_nonpos_of_nonneg (Int.natCast_nonneg _)
  · exact Int.le_refl 0

theorem holds_of_le (nonneg : 0 ≤ v) (below : v ≤ w) (held : t.holds w = true) :
    t.holds v = true := by
  rw [holds_iff] at held ⊢
  have negative := t.least_nonpos
  omega

theorem holds_w64_iff (signed : Bool) (v : Int) :
    (⟨.w64, signed⟩ : IntegerType).holds v = true ↔ InRange64 signed v := by
  rw [holds_iff]
  cases signed <;> rfl

end Ranges

section Search

variable {v : Int} {signed : Bool} {t : IntegerType}

theorem narrowest?_eq_find? (v : Int) (signed : Bool) :
    narrowest? v signed = (candidates signed).find? fun t => t.holds v :=
  rfl

theorem signed_and_holds_of_narrowest? (found : narrowest? v signed = some t) :
    t.signed = signed ∧ t.holds v = true := by
  rw [narrowest?_eq_find?] at found
  have held := List.find?_some found
  exact ⟨(mem_candidates_iff signed t).1 (List.mem_of_find?_eq_some found), held⟩

/-- The candidates before the first one that holds a value do not, and those behind it are wider. -/
theorem size_le_of_narrowest? (found : narrowest? v signed = some t) {u : IntegerType}
    (same : u.signed = signed) (held : u.holds v = true) : t.size ≤ u.size := by
  rw [narrowest?_eq_find?, List.find?_eq_some_iff_append] at found
  obtain ⟨-, before, after, split, rejected⟩ := found
  have listed := (mem_candidates_iff signed u).2 same
  have increasing := candidates_increasing signed
  rw [split] at listed increasing
  rcases List.mem_append.1 listed with earlier | later
  · have refused := rejected u earlier
    rw [held] at refused
    cases refused
  · rcases List.mem_cons.1 later with rfl | wider
    · exact Nat.le_refl _
    · have sorted := (List.pairwise_append.1 increasing).2.1
      exact Nat.le_of_lt ((List.pairwise_cons.1 sorted).1 u wider)

theorem exists_narrowest? (same : t.signed = signed) (held : t.holds v = true) :
    ∃ s, narrowest? v signed = some s := by
  cases found : narrowest? v signed with
  | none =>
    rw [narrowest?_eq_find?, List.find?_eq_none] at found
    exact absurd held (found t ((mem_candidates_iff signed t).2 same))
  | some s => exact ⟨s, rfl⟩

end Search

/-- The first candidate that holds a value is the least one that does. -/
theorem narrowest?_eq_some_iff (v : Int) (signed : Bool) (t : IntegerType) :
    narrowest? v signed = some t ↔ t.signed = signed ∧ t.holds v = true ∧
      ∀ u : IntegerType, u.signed = signed → u.holds v = true → t.size ≤ u.size := by
  constructor
  · intro found
    obtain ⟨same, held⟩ := signed_and_holds_of_narrowest? found
    exact ⟨same, held, fun u => size_le_of_narrowest? found⟩
  · rintro ⟨same, held, minimal⟩
    obtain ⟨s, found⟩ := exists_narrowest? same held
    obtain ⟨signedness, holds⟩ := signed_and_holds_of_narrowest? found
    have size : s.size = t.size :=
      Nat.le_antisymm (size_le_of_narrowest? found same held) (minimal s signedness holds)
    rw [found, eq_of_size_eq (signedness.trans same.symm) size]

/-- The widest candidate holds what any of them holds. -/
theorem narrowest?_eq_none_iff (v : Int) (signed : Bool) :
    narrowest? v signed = none ↔ ¬ InRange64 signed v := by
  rw [← holds_w64_iff, narrowest?_eq_find?, List.find?_eq_none]
  constructor
  · exact fun none => none _ ((mem_candidates_iff signed _).2 rfl)
  · intro outside t listed held
    exact outside (holds_widen ((mem_candidates_iff signed t).1 listed) t.width.bytes_le_w64 held)

end IntegerType

/-- The narrowest type of a value is the least of its signedness that holds the value. It exists for
the values of 64 bits, and a smaller value that is not negative has a type that is no wider. -/
theorem narrowest_is_least_and_monotone (v : Int) (signed : Bool) :
    (∀ t, IntegerType.narrowest? v signed = some t ↔ t.signed = signed ∧ t.holds v = true ∧
      ∀ u : IntegerType, u.signed = signed → u.holds v = true → t.size ≤ u.size) ∧
    (IntegerType.narrowest? v signed = none ↔ ¬ IntegerType.InRange64 signed v) ∧
    ∀ w t, 0 ≤ v → v ≤ w → IntegerType.narrowest? w signed = some t →
      ∃ s, IntegerType.narrowest? v signed = some s ∧ s.size ≤ t.size := by
  refine ⟨IntegerType.narrowest?_eq_some_iff v signed, IntegerType.narrowest?_eq_none_iff v signed,
    fun w t nonneg below found => ?_⟩
  obtain ⟨same, heldAbove⟩ := IntegerType.signed_and_holds_of_narrowest? found
  have held := IntegerType.holds_of_le nonneg below heldAbove
  obtain ⟨s, narrow⟩ := IntegerType.exists_narrowest? same held
  exact ⟨s, narrow, IntegerType.size_le_of_narrowest? narrow same held⟩

theorem narrowest_is_least_and_monotone_samples :
    IntegerType.narrowest? (-0x8000000000000001) true = none ∧
      IntegerType.narrowest? 0x100 false = some ⟨.w16, false⟩ ∧
      ∃ s, IntegerType.narrowest? 0xFF false = some s ∧ s.size ≤ 2 :=
  ⟨(narrowest_is_least_and_monotone _ true).2.1.2 (by decide), by decide,
    (narrowest_is_least_and_monotone 0xFF false).2.2 0x100 ⟨.w16, false⟩ (by decide) (by decide)
      (by decide)⟩

end HeaderBindings
