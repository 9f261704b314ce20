import HeaderBindings.Proofs.Decimal
import Mathlib.Data.List.Induction

/-!
# Canonical decimal texts

A reader takes signs of both kinds and leading zeros, so an integer has many decimal texts. Among
them one is canonical: it has no plus sign, no superfluous zero and no negative zero. The text that
is written for an integer is canonical and reads back as the integer, and no other canonical text
does (`canonical_and_reads_iff`). So it tells the integer, and no text with a character that is
neither a digit nor a minus sign is the decimal text of any integer (`ofInt_inj`, `ofInt_ne_of_mem`).
-/

namespace HeaderBindings.Decimal

/-- Whether characters are digits that no superfluous zero leads. -/
structure PlainDigits (digits : List Char) : Prop where
  nonempty : digits ≠ []
  each : ∀ c ∈ digits, c.isDigit = true
  leading : digits.head? = some '0' → digits = ['0']

/-- Whether characters are a decimal text in its shortest form. -/
inductive Canonical : List Char → Prop where
  | nonnegative {digits : List Char} (plain : PlainDigits digits) : Canonical digits
  | negative {digits : List Char} (plain : PlainDigits digits) (nonzero : digits ≠ ['0']) :
      Canonical ('-' :: digits)

theorem isDigit_iff (c : Char) : c.isDigit = true ↔ 0x30 ≤ c.toNat ∧ c.toNat ≤ 0x39 := by
  rw [Char.isDigit, Bool.and_eq_true, decide_eq_true_iff, decide_eq_true_iff]
  exact Iff.rfl

theorem digitValue_lt {c : Char} (digit : c.isDigit = true) : digitValue c < 10 := by
  rw [isDigit_iff] at digit
  rw [digitValue]
  omega

theorem digitChar_digitValue {c : Char} (digit : c.isDigit = true) :
    digitChar (digitValue c) = c := by
  rw [isDigit_iff] at digit
  rw [digitChar, digitValue, Nat.add_sub_cancel' digit.1, Char.ofNat_toNat]

theorem plainDigits_natDigits (n : Nat) : PlainDigits (natDigits n) := by
  obtain ⟨c, rest, split, leading⟩ := natDigits_eq_cons n
  refine ⟨by rw [split]; exact List.cons_ne_nil _ _, isDigit_of_mem_natDigits n, fun zero => ?_⟩
  rw [split] at zero ⊢
  have first : c = '0' := Option.some.inj zero
  rw [(leading first).2, first]

theorem natDigits_of_lt {n : Nat} (small : n < 10) : natDigits n = [digitChar n] := by
  rw [natDigits, if_pos small]

theorem natDigits_of_le {n : Nat} (large : 10 ≤ n) :
    natDigits n = natDigits (n / 10) ++ [digitChar (n % 10)] := by
  rw [natDigits, if_neg (Nat.not_lt.2 large)]

/-- Plain digits are the digits of the number that they stand for. -/
theorem natDigits_natOfDigits {digits : List Char} (plain : PlainDigits digits) :
    natDigits (natOfDigits digits) = digits := by
  induction digits using List.reverseRecOn with
  | nil => exact absurd rfl plain.nonempty
  | append_singleton front c ih =>
    have digit : c.isDigit = true := plain.each c (by simp)
    have small := digitValue_lt digit
    rw [natOfDigits_concat]
    cases front with
    | nil =>
      have alone : 10 * natOfDigits [] + digitValue c = digitValue c := by simp [natOfDigits]
      rw [alone, natDigits_of_lt small, digitChar_digitValue digit, List.nil_append]
    | cons first rest =>
      have nonzero : first ≠ '0' := by
        rintro rfl
        exact absurd (plain.leading rfl) (by simp)
      have frontPlain : PlainDigits (first :: rest) :=
        ⟨List.cons_ne_nil _ _, fun d member => plain.each d (List.mem_append_left _ member),
          fun zero => absurd (Option.some.inj zero) nonzero⟩
      have same := ih frontPlain
      -- A front that stands for zero would be the digit zero.
      have positive : 0 < natOfDigits (first :: rest) := by
        rcases Nat.eq_zero_or_pos (natOfDigits (first :: rest)) with none | positive
        · rw [none, natDigits_of_lt (by decide)] at same
          exact absurd (List.cons.inj same).1.symm nonzero
        · exact positive
      have quotient : (10 * natOfDigits (first :: rest) + digitValue c) / 10 =
          natOfDigits (first :: rest) := by omega
      have remainder : (10 * natOfDigits (first :: rest) + digitValue c) % 10 = digitValue c := by
        omega
      rw [natDigits_of_le (by omega), quotient, remainder, same, digitChar_digitValue digit]

namespace PlainDigits

variable {digits : List Char} (plain : PlainDigits digits)
include plain

theorem readNat? : readNat? digits = some (natOfDigits digits) := by
  rw [Decimal.readNat?, if_pos]
  rw [Bool.and_eq_true, Bool.not_eq_true', List.isEmpty_eq_false_iff, List.all_eq_true]
  exact ⟨plain.nonempty, plain.each⟩

/-- Digits are no sign, so they are read as they are. -/
theorem readInt? : readInt? digits = some (natOfDigits digits : Int) := by
  have unsigned : ∀ c rest, digits = c :: rest → c ≠ '+' ∧ c ≠ '-' := by
    rintro c rest rfl
    have digit := plain.each c List.mem_cons_self
    constructor
    · rintro rfl
      exact absurd digit (by decide)
    · rintro rfl
      exact absurd digit (by decide)
  unfold Decimal.readInt?
  split
  · exact absurd rfl (unsigned _ _ rfl).1
  · exact absurd rfl (unsigned _ _ rfl).2
  · rw [plain.readNat?]
    rfl

theorem readInt?_minus : Decimal.readInt? ('-' :: digits) = some (-(natOfDigits digits : Int)) := by
  rw [Decimal.readInt?, plain.readNat?]
  rfl

end PlainDigits

theorem canonical_intDigits (i : Int) : Canonical (intDigits i) := by
  cases i with
  | ofNat n => exact .nonnegative (plainDigits_natDigits n)
  | negSucc n =>
    refine .negative (plainDigits_natDigits (n + 1)) fun zero => ?_
    have value := natOfDigits_natDigits (n + 1)
    rw [zero] at value
    exact absurd value (by simp [natOfDigits, digitValue])

theorem readInt?_intDigits (i : Int) : readInt? (intDigits i) = some i := by
  cases i with
  | ofNat n =>
    rw [intDigits, (plainDigits_natDigits n).readInt?, natOfDigits_natDigits]
    rfl
  | negSucc n =>
    rw [intDigits, (plainDigits_natDigits (n + 1)).readInt?_minus, natOfDigits_natDigits]
    rfl

theorem Canonical.eq_intDigits {text : List Char} (canonical : Canonical text) {i : Int}
    (reads : readInt? text = some i) : text = intDigits i := by
  cases canonical with
  | nonnegative plain =>
    rw [plain.readInt?] at reads
    rw [← Option.some.inj reads]
    exact (natDigits_natOfDigits plain).symm
  | @negative digits plain nonzero =>
    rw [plain.readInt?_minus] at reads
    have same := natDigits_natOfDigits plain
    cases value : natOfDigits digits with
    | zero =>
      rw [value, natDigits_of_lt (by decide)] at same
      exact absurd same.symm nonzero
    | succ n =>
      rw [value] at same reads
      rw [← Option.some.inj reads, ← same]
      rfl

/-- The canonical text that reads as an integer is the one that is written for it. -/
theorem canonical_and_reads_iff (text : List Char) (i : Int) :
    Canonical text ∧ readInt? text = some i ↔ text = intDigits i := by
  constructor
  · rintro ⟨canonical, reads⟩
    exact canonical.eq_intDigits reads
  · rintro rfl
    exact ⟨canonical_intDigits i, readInt?_intDigits i⟩

theorem ofInt_inj {i j : Int} : ofInt i = ofInt j ↔ i = j := by
  constructor
  · intro same
    have digits : intDigits i = intDigits j := String.ofList_injective same
    have read := readInt?_intDigits i
    rw [digits, readInt?_intDigits] at read
    exact (Option.some.inj read).symm
  · intro same
    rw [same]

/-- A decimal text has no characters but digits and the minus sign. -/
theorem isDigit_or_minus_of_mem_ofInt {i : Int} {c : Char} (member : c ∈ (ofInt i).toList) :
    c.isDigit = true ∨ c = '-' := by
  rw [ofInt, String.toList_ofList] at member
  cases i with
  | ofNat n => exact .inl (isDigit_of_mem_natDigits n c member)
  | negSucc n =>
    rcases List.mem_cons.1 member with minus | digit
    · exact .inr minus
    · exact .inl (isDigit_of_mem_natDigits (n + 1) c digit)

theorem ofInt_ne_of_mem {s : String} {c : Char} (member : c ∈ s.toList)
    (foreign : c.isDigit = false ∧ c ≠ '-') (i : Int) : ofInt i ≠ s := by
  intro same
  rw [← same] at member
  rcases isDigit_or_minus_of_mem_ofInt member with digit | minus
  · rw [foreign.1] at digit
    cases digit
  · exact foreign.2 minus

theorem ofInt_ne_empty (i : Int) : ofInt i ≠ "" := by
  intro empty
  have digits : intDigits i = [] := String.ofList_injective empty
  have canonical := canonical_intDigits i
  rw [digits] at canonical
  cases canonical with
  | nonnegative plain => exact plain.nonempty rfl

/-- Whether a text is the decimal text of an integer: it reads as the integer and has no plus sign,
no superfluous zero and no negative zero. -/
def IsTextOf (s : String) (i : Int) : Prop :=
  Canonical s.toList ∧ readInt? s.toList = some i

theorem isTextOf_iff (s : String) (i : Int) : IsTextOf s i ↔ s = ofInt i := by
  rw [IsTextOf, canonical_and_reads_iff, ofInt]
  constructor
  · intro same
    rw [← same, String.ofList_toList]
  · intro same
    rw [same, String.toList_ofList]

theorem readInt128?_eq_some_iff (s : String) (i : Int) :
    readInt128? s = some i ↔ readInt? s.toList = some i ∧ fits128 i = true := by
  rw [readInt128?, Option.filter_eq_some_iff]

end HeaderBindings.Decimal
