import HeaderBindings.Text.ConstantCase

/-!
# Upper-case forms

No character has an upper-case form with one of the letters `a` to `z`, not even a
character beyond ASCII whose upper-case form is an ASCII letter (`ı`, `ſ`, `ŉ`). So the
constant case of any name is free of them, and a symbol with a small letter is never the
constant case of a declaration.

Nor does an underscore come from anything but an underscore. A character is its own
upper-case form, or else that form starts with another character (`upperChar_eq`).
-/

namespace HeaderBindings.Text

theorem isLower_iff (c : Char) : c.isLower = true ↔ 97 ≤ c.toNat ∧ c.toNat ≤ 122 := by
  have test : c.isLower = (decide (97 ≤ c.val) && decide (c.val ≤ 122)) := rfl
  rw [test, Bool.and_eq_true, decide_eq_true_eq, decide_eq_true_eq, UInt32.le_iff_toNat_le,
    UInt32.le_iff_toNat_le]
  rfl

theorem isUpper_iff (c : Char) : c.isUpper = true ↔ 65 ≤ c.toNat ∧ c.toNat ≤ 90 := by
  have test : c.isUpper = decide (65 ≤ c.val ∧ c.val ≤ 90) := rfl
  rw [test, decide_eq_true_eq, UInt32.le_iff_toNat_le, UInt32.le_iff_toNat_le]
  rfl

/-- A code point that is no character stands for the character zero. -/
theorem toNat_ofNat (n : Nat) : (Char.ofNat n).toNat = n ∨ (Char.ofNat n).toNat = 0 := by
  by_cases valid : n.isValidChar
  · exact .inl (congrArg Char.toNat (dif_pos valid))
  · exact .inr (congrArg Char.toNat (dif_neg valid))

/-- What holds of each of the 128 codes holds of an ASCII character. -/
theorem of_ascii_codes {p : Char → Prop} {c : Char} (ascii : c.toNat < 0x80)
    (codes : ∀ n, n < 0x80 → p (Char.ofNat n)) : p c := by
  rw [← Char.ofNat_toNat c]
  exact codes c.toNat ascii

theorem isLower_toUpper {c : Char} (ascii : c.toNat < 0x80) : c.toUpper.isLower = false :=
  of_ascii_codes (p := fun c => c.toUpper.isLower = false) ascii (by decide)

theorem mem_of_lookup_eq_some {κ α : Type} [BEq κ] [LawfulBEq κ] {entries : List (κ × α)} {key : κ}
    {value : α} (found : entries.lookup key = some value) : (key, value) ∈ entries := by
  rw [List.lookup_eq_some_iff] at found
  obtain ⟨before, after, rfl, -⟩ := found
  simp

-- The codes from 95 to 122 are those of the underscore, of the grave accent and of `a` to `z`.
theorem expansions_avoid : ∀ e ∈ upperExpansions, ∀ n ∈ e.2, n < 95 ∨ 122 < n := by
  decide +kernel

theorem runs_avoid :
    ∀ run ∈ upperRuns, run.last + run.shift < 95 ∨ 122 < run.first + run.shift := by
  decide +kernel

theorem CaseRun.map?_avoids {run : CaseRun} {n code : Nat}
    (outside : run.last + run.shift < 95 ∨ 122 < run.first + run.shift)
    (mapped : run.map? n = some code) : code < 95 ∨ 122 < code := by
  unfold CaseRun.map? at mapped
  split at mapped
  · rename_i covered
    simp only [Bool.and_eq_true, decide_eq_true_eq] at covered
    cases mapped
    omega
  · cases mapped

/-- The upper-case form of a character beyond ASCII has neither an underscore nor a small letter. -/
theorem toNat_of_mem_upperChar {c u : Char} (beyond : ¬ c.toNat < 0x80) (member : u ∈ upperChar c) :
    u.toNat < 95 ∨ 122 < u.toNat := by
  have coded : ∀ n, n < 95 ∨ 122 < n → (Char.ofNat n).toNat < 95 ∨ 122 < (Char.ofNat n).toNat := by
    intro n outside
    have := toNat_ofNat n
    omega
  unfold upperChar mapCase at member
  rw [if_neg beyond] at member
  split at member
  · rename_i codes found
    obtain ⟨code, listed, rfl⟩ := List.mem_map.1 member
    exact coded code (expansions_avoid _ (mem_of_lookup_eq_some found) code listed)
  · split at member
    · rename_i code found
      obtain ⟨run, listed, mapped⟩ := List.exists_of_findSome?_eq_some found
      rw [List.mem_singleton.1 member]
      exact coded code (CaseRun.map?_avoids (runs_avoid run listed) mapped)
    · rw [List.mem_singleton.1 member]
      omega

theorem isLower_of_mem_upperChar {c u : Char} (member : u ∈ upperChar c) : u.isLower = false := by
  by_cases ascii : c.toNat < 0x80
  · rw [upperChar, if_pos ascii] at member
    rw [List.mem_singleton.1 member]
    exact isLower_toUpper ascii
  · have outside := toNat_of_mem_upperChar ascii member
    rw [Bool.eq_false_iff, ne_eq, isLower_iff]
    omega

theorem underscore_mem_upperChar_iff (c : Char) : '_' ∈ upperChar c ↔ c = '_' := by
  constructor
  · intro member
    by_cases ascii : c.toNat < 0x80
    · have table : c.toUpper = '_' → c = '_' :=
        of_ascii_codes (p := fun c => c.toUpper = '_' → c = '_') ascii (by decide)
      rw [upperChar, if_pos ascii, List.mem_singleton] at member
      exact table member.symm
    · have outside := toNat_of_mem_upperChar ascii member
      have code : '_'.toNat = 95 := rfl
      omega
  · rintro rfl
    decide

theorem expansions_start_elsewhere :
    ∀ e ∈ upperExpansions, e.2.head?.any (· != e.1) = true := by
  decide +kernel

/-- A character is its own upper-case form, or this form starts with another character. -/
theorem upperChar_eq (c : Char) :
    upperChar c = [c] ∨ ∃ u rest, upperChar c = u :: rest ∧ u ≠ c := by
  have single : ∀ u, [u] = [c] ∨ ∃ v rest, [u] = v :: rest ∧ v ≠ c := by
    intro u
    by_cases same : u = c
    · exact .inl (by rw [same])
    · exact .inr ⟨u, [], rfl, same⟩
  by_cases ascii : c.toNat < 0x80
  · rw [upperChar, if_pos ascii]
    exact single c.toUpper
  · rw [upperChar, if_neg ascii]
    unfold mapCase
    split
    · rename_i codes found
      have elsewhere := expansions_start_elsewhere _ (mem_of_lookup_eq_some found)
      cases codes with
      | nil => cases elsewhere
      | cons first rest =>
        have different : first ≠ c.toNat := by simpa using elsewhere
        refine .inr ⟨Char.ofNat first, rest.map Char.ofNat, rfl, fun same => ?_⟩
        have code := toNat_ofNat first
        rw [same] at code
        omega
    · split
      · exact single _
      · exact single c

theorem isLower_of_mem_upper {cs : List Char} {u : Char} (member : u ∈ upper cs) :
    u.isLower = false := by
  obtain ⟨c, -, mapped⟩ := List.mem_flatMap.1 member
  exact isLower_of_mem_upperChar mapped

theorem mem_joinWords {words : List (List Char)} {c : Char} (member : c ∈ joinWords words) :
    c = '_' ∨ ∃ word ∈ words, c ∈ word := by
  fun_induction joinWords words with
  | case1 => cases member
  | case2 word => exact .inr ⟨word, by simp, member⟩
  | case3 word rest _ ih =>
    rcases List.mem_append.1 member with here | later
    · exact .inr ⟨word, by simp, here⟩
    · rcases List.mem_cons.1 later with rfl | deeper
      · exact .inl rfl
      · rcases ih deeper with rfl | ⟨other, listed, inside⟩
        · exact .inl rfl
        · exact .inr ⟨other, by simp [listed], inside⟩

/-- The constant case of a name has no small letter. -/
theorem isLower_of_mem_constantCase {name : String} {c : Char}
    (member : c ∈ (constantCase name).toList) : c.isLower = false := by
  rw [constantCase, String.toList_ofList] at member
  rcases mem_joinWords member with rfl | ⟨word, listed, inside⟩
  · rfl
  · obtain ⟨original, -, rfl⟩ := List.mem_map.1 listed
    exact isLower_of_mem_upper inside

end HeaderBindings.Text
