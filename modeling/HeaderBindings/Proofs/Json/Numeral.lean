import HeaderBindings.Json.Token
import HeaderBindings.Proofs.Decimal

/-!
# Integers as numerals

The numeral of an integer is scanned whole if no character behind it can extend it, and
it stands for the integer as long as the integer is between `-2 ^ 63` and `2 ^ 64 - 1`.
Every integer of 64 bits, signed or not, lies there.
-/

namespace HeaderBindings.Json

open HeaderBindings.Decimal

/-- Whether the characters in front cannot extend a numeral that stands before them. -/
def ClosesNumeral (rest : List Char) : Prop :=
  ∀ c ∈ rest.head?, c.isDigit = false ∧ c ≠ '.' ∧ c ≠ 'e' ∧ c ≠ 'E'

@[simp] theorem closesNumeral_nil : ClosesNumeral [] := by
  simp [ClosesNumeral]

@[simp] theorem closesNumeral_cons (c : Char) (rest : List Char) :
    ClosesNumeral (c :: rest) ↔ c.isDigit = false ∧ c ≠ '.' ∧ c ≠ 'e' ∧ c ≠ 'E' := by
  simp [ClosesNumeral]

section Scanning

variable {rest : List Char} (closes : ClosesNumeral rest)
include closes

theorem scanDigits_append {digits : List Char} (each : ∀ c ∈ digits, c.isDigit = true) :
    scanDigits (digits ++ rest) = (digits, rest) := by
  have stop : rest.takeWhile Char.isDigit = [] ∧ rest.dropWhile Char.isDigit = rest := by
    cases rest with
    | nil => exact ⟨rfl, rfl⟩
    | cons c tail => simp [((closesNumeral_cons c tail).1 closes).1]
  rw [scanDigits, List.takeWhile_append_of_pos each, List.dropWhile_append_of_pos each, stop.1,
    stop.2, List.append_nil]

theorem scanWhole_natDigits (n : Nat) :
    scanWhole (natDigits n ++ rest) = .ok (natDigits n, rest) := by
  obtain ⟨c, tail, digits, leading⟩ := natDigits_eq_cons n
  have each := isDigit_of_mem_natDigits n
  rw [digits] at each ⊢
  by_cases zero : c = '0'
  · have noDigit : rest.head?.any Char.isDigit = false := by
      cases rest with
      | nil => rfl
      | cons c tail => simp [((closesNumeral_cons c tail).1 closes).1]
    rw [(leading zero).2, zero]
    simp [scanWhole, noDigit]
  · have tailScan := scanDigits_append closes fun d member => each d (List.mem_cons_of_mem c member)
    simp [scanWhole, zero, each c List.mem_cons_self, tailScan]

theorem scanFraction_closed : scanFraction rest = .ok ([], rest) := by
  cases rest with
  | nil => rfl
  | cons c tail =>
    rw [scanFraction]
    rintro after same
    exact ((closesNumeral_cons c tail).1 closes).2.1 (List.cons.inj same).1

theorem scanExponent_closed : scanExponent rest = .ok (none, rest) := by
  cases rest with
  | nil => rfl
  | cons c tail =>
    have noMark := ((closesNumeral_cons c tail).1 closes).2.2
    simp [scanExponent, noMark]

theorem scanMagnitude_natDigits (negative : Bool) (n : Nat) :
    scanMagnitude negative (natDigits n ++ rest) = .ok (⟨negative, natDigits n, [], none⟩, rest) := by
  simp only [scanMagnitude, scanWhole_natDigits closes, scanFraction_closed closes,
    scanExponent_closed closes]

/-- The numeral of an integer is scanned whole. -/
theorem scanNumeral_ofInt (i : Int) :
    scanNumeral ((Numeral.ofInt i).text ++ rest) = .ok (Numeral.ofInt i, rest) := by
  by_cases negative : i < 0
  · simp [Numeral.text, Numeral.ofInt, negative, scanNumeral, scanMagnitude_natDigits closes]
  · have text : (Numeral.ofInt i).text = natDigits i.natAbs := by
      simp [Numeral.text, Numeral.ofInt, negative]
    rw [text, scanNumeral, scanMagnitude_natDigits closes]
    · simp [Numeral.ofInt, negative]
    · intro tail minus
      obtain ⟨c, digits, split, -⟩ := natDigits_eq_cons i.natAbs
      have digit := isDigit_of_mem_natDigits i.natAbs c (by rw [split]; exact List.mem_cons_self)
      rw [split, List.cons_append] at minus
      rw [(List.cons.inj minus).1] at digit
      exact absurd digit (by decide)

end Scanning

/-- A numeral starts with a minus sign or a digit. -/
theorem text_ofInt_eq_cons (i : Int) :
    ∃ c rest, (Numeral.ofInt i).text = c :: rest ∧ (c = '-' ∨ c.isDigit = true) := by
  obtain ⟨c, digits, split, -⟩ := natDigits_eq_cons i.natAbs
  have digit := isDigit_of_mem_natDigits i.natAbs c (by rw [split]; exact List.mem_cons_self)
  by_cases negative : i < 0
  · exact ⟨'-', natDigits i.natAbs, by simp [Numeral.text, Numeral.ofInt, negative], .inl rfl⟩
  · exact ⟨c, digits, by simp [Numeral.text, Numeral.ofInt, negative, split], .inr digit⟩

/-- The numeral of an integer stands for it if the integer is not too long for 64 bits. -/
theorem value?_ofInt {i : Int} (least : -0x8000000000000000 ≤ i)
    (greatest : i < 0x10000000000000000) : (Numeral.ofInt i).value? = some (.integer i) := by
  have read : (Numeral.ofInt i).integer? = some i := by
    unfold Numeral.integer? Numeral.ofInt
    rw [natOfDigits_natDigits, if_neg (by simp)]
    by_cases negative : i < 0
    · have nonzero : i.natAbs ≠ 0 := by omega
      have small : i.natAbs ≤ 2 ^ 63 := by omega
      have same : -(i.natAbs : Int) = i := by omega
      have inside : (i.natAbs != 0 && decide (i.natAbs ≤ Nat.pow 2 63)) = true :=
        Bool.and_eq_true_iff.2 ⟨bne_iff_ne.2 nonzero, decide_eq_true small⟩
      rw [if_pos (decide_eq_true negative), if_pos inside, same]
    · have small : i.natAbs < 2 ^ 64 := by omega
      have same : (i.natAbs : Int) = i := by omega
      rw [if_neg (by simpa using negative), if_pos (show i.natAbs < Nat.pow 2 64 from small), same]
  rw [Numeral.value?, read]

end HeaderBindings.Json
