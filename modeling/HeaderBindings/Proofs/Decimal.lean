import HeaderBindings.Decimal.Integer

/-!
# Decimal digits read back

The digits of a natural number stand for that number (`natOfDigits_natDigits`), all of
them are digit characters, and a zero leads them only if it is the number itself. A
reader that refuses leading zeros therefore takes them as they are.
-/

namespace HeaderBindings.Decimal

theorem digitValue_digitChar {d : Nat} (small : d < 10) : digitValue (digitChar d) = d := by
  have all : ∀ d, d < 10 → digitValue (digitChar d) = d := by decide
  exact all d small

theorem isDigit_digitChar {d : Nat} (small : d < 10) : (digitChar d).isDigit = true := by
  have all : ∀ d, d < 10 → (digitChar d).isDigit = true := by decide
  exact all d small

theorem digitChar_ne_zero {d : Nat} (small : d < 10) (positive : 0 < d) : digitChar d ≠ '0' := by
  have all : ∀ d, d < 10 → 0 < d → digitChar d ≠ '0' := by decide
  exact all d small positive

theorem natOfDigits_concat (digits : List Char) (c : Char) :
    natOfDigits (digits ++ [c]) = 10 * natOfDigits digits + digitValue c := by
  simp only [natOfDigits, List.foldl_append, List.foldl_cons, List.foldl_nil]

/-- Digits stand for the number they were made from. -/
theorem natOfDigits_natDigits (n : Nat) : natOfDigits (natDigits n) = n := by
  fun_induction natDigits n with
  | case1 n small =>
    simp only [natOfDigits, List.foldl_cons, List.foldl_nil]
    rw [digitValue_digitChar small]
    omega
  | case2 n large ih =>
    rw [natOfDigits_concat, ih, digitValue_digitChar (Nat.mod_lt n (by decide))]
    omega

theorem isDigit_of_mem_natDigits (n : Nat) : ∀ c ∈ natDigits n, c.isDigit = true := by
  fun_induction natDigits n with
  | case1 n small =>
    intro c member
    rw [List.mem_singleton.1 member]
    exact isDigit_digitChar small
  | case2 n large ih =>
    intro c member
    rcases List.mem_append.1 member with earlier | last
    · exact ih c earlier
    · rw [List.mem_singleton.1 last]
      exact isDigit_digitChar (Nat.mod_lt n (by decide))

/-- There is a first digit, and it is a zero only if the number is zero. -/
theorem natDigits_eq_cons (n : Nat) :
    ∃ c rest, natDigits n = c :: rest ∧ (c = '0' → n = 0 ∧ rest = []) := by
  fun_induction natDigits n with
  | case1 n small =>
    refine ⟨digitChar n, [], rfl, fun zero => ⟨?_, rfl⟩⟩
    rcases Nat.eq_zero_or_pos n with none | positive
    · exact none
    · exact absurd zero (digitChar_ne_zero small positive)
  | case2 n large ih =>
    obtain ⟨c, rest, digits, leading⟩ := ih
    refine ⟨c, rest ++ [digitChar (n % 10)], by rw [digits, List.cons_append], fun zero => ?_⟩
    have := (leading zero).1
    omega

end HeaderBindings.Decimal
