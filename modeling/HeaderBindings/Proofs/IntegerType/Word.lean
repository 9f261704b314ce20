import HeaderBindings.IntegerType
import HeaderBindings.Word
import Mathlib.Algebra.Group.Int.Defs

/-!
# Words and what integer types hold

Words of a number of bits stand for the integers between two bounds (`Word.InRange`), and these are
the integers that truncation leaves as they are (`Word.value_truncate_eq_iff`). So the checked
conversion to a word succeeds exactly on them.

An integer type is declared with a width in bytes and has bounds of its own, which are computed from
that width. They are the bounds of the words of as many bits (`IntegerType.holds_iff_inRange`).
-/

namespace HeaderBindings

namespace Word

variable {bits : Nat} {signed : Bool}

/-- Whether there is a word of a number of bits that stands for an integer. -/
def InRange (bits : Nat) (signed : Bool) (v : Int) : Prop :=
  if signed then -2 ^ (bits - 1) ≤ v ∧ v < 2 ^ (bits - 1) else 0 ≤ v ∧ v < 2 ^ bits

instance (v : Int) : Decidable (InRange bits signed v) :=
  inferInstanceAs (Decidable (if signed then _ else _))

theorem inRange_value (w : Word bits signed) : InRange bits signed w.value := by
  rw [InRange, value]
  cases signed with
  | true => exact ⟨BitVec.le_toInt w.raw, BitVec.toInt_lt⟩
  | false =>
    have upper : (w.raw.toNat : Int) < 2 ^ bits := mod_cast w.raw.isLt
    exact ⟨Int.natCast_nonneg _, upper⟩

theorem value_truncate (positive : 0 < bits) {v : Int} (inside : InRange bits signed v) :
    (truncate bits signed v).value = v := by
  rw [InRange] at inside
  rw [truncate, value]
  cases signed with
  | true =>
    obtain ⟨lower, upper⟩ := inside
    exact BitVec.toInt_ofInt_eq_self positive lower upper
  | false =>
    obtain ⟨lower, upper⟩ := inside
    have kept : v % (2 ^ bits : Nat) = v :=
      Int.emod_eq_of_lt lower (by rwa [Int.natCast_pow])
    rw [if_neg Bool.false_ne_true, BitVec.toNat_ofInt, kept]
    exact Int.toNat_of_nonneg lower

/-- An integer is truncated to itself exactly if there is a word that stands for it. -/
theorem value_truncate_eq_iff (positive : 0 < bits) {v : Int} :
    (truncate bits signed v).value = v ↔ InRange bits signed v := by
  constructor
  · intro unchanged
    rw [← unchanged]
    exact inRange_value _
  · exact value_truncate positive

theorem truncate_value (w : Word bits signed) : truncate bits signed w.value = w := by
  rw [truncate, value]
  split
  · rw [BitVec.ofInt_toInt]
  · rw [BitVec.ofInt_natCast, BitVec.ofNat_toNat, BitVec.setWidth_eq]

/-- The checked word of an integer is the one that stands for it. -/
theorem ofInt?_eq_some_iff {v : Int} {w : Word bits signed} :
    ofInt? bits signed v = some w ↔ w.value = v := by
  unfold ofInt?
  constructor
  · intro found
    split at found
    · rename_i unchanged
      rw [← Option.some.inj found]
      exact unchanged
    · cases found
  · rintro rfl
    rw [truncate_value, if_pos rfl]

theorem ofInt?_eq_none_iff (positive : 0 < bits) {v : Int} :
    ofInt? bits signed v = none ↔ ¬ InRange bits signed v := by
  rw [ofInt?, ite_eq_right_iff, value_truncate_eq_iff positive]
  simp

end Word

theorem Primitive.bits_pos (p : Primitive) : 0 < p.bits := by
  cases p <;> decide

theorem Width.bits_pos (w : Width) : 0 < w.bits := by
  cases w <;> decide

namespace IntegerType

variable (t : IntegerType) (v : Int)

theorem holds_iff : t.holds v = true ↔ t.least ≤ v ∧ v ≤ t.greatest := by
  rw [holds, Bool.and_eq_true, decide_eq_true_iff, decide_eq_true_iff]

/-- The bounds of an integer type are those of the words of its width and signedness. -/
theorem holds_iff_inRange : t.holds v = true ↔ Word.InRange t.width.bits t.signed v := by
  rw [holds_iff, least, greatest, Word.InRange]
  cases t.signed with
  | true =>
    simp only [if_true, Nat.pow_eq, Int.natCast_pow, Int.cast_ofNat_Int]
    exact and_congr_right fun _ => Int.le_sub_one_iff
  | false =>
    simp only [Bool.false_eq_true, if_false, Nat.pow_eq, Int.natCast_pow, Int.cast_ofNat_Int]
    exact and_congr_right fun _ => Int.le_sub_one_iff

/-- What two's complement leaves of an integer in the width and signedness of an integer type. -/
def truncate : Int :=
  (Word.truncate t.width.bits t.signed v).value

/-- An integer is truncated to itself exactly if the integer type holds it. -/
theorem truncate_eq_iff : t.truncate v = v ↔ t.holds v = true := by
  rw [truncate, Word.value_truncate_eq_iff t.width.bits_pos, holds_iff_inRange]

end IntegerType

end HeaderBindings
