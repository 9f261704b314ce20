import HeaderBindings.Text.Blank
import Mathlib.Data.List.DropRight

/-!
# Trimmed texts

Trimming takes blanks away from the two ends and keeps every other character, so a trimmed
text is blank only if the text was (`isBlankText_trim`), and nothing is left of a blank text
(`isBlankText_iff`). There is nothing left to trim in a trimmed text (`trim_trim`).
-/

namespace HeaderBindings.Text

theorem trimEnd_eq_rdropWhile (cs : List Char) : trimEnd cs = cs.rdropWhile isBlank :=
  rfl

theorem mem_trimStart {c : Char} (visible : isBlank c = false) {cs : List Char} (member : c ∈ cs) :
    c ∈ trimStart cs := by
  rw [← List.takeWhile_append_dropWhile (p := isBlank) (l := cs), List.mem_append] at member
  refine member.resolve_left fun dropped => ?_
  exact absurd (List.mem_takeWhile_imp dropped) (Bool.eq_false_iff.1 visible)

theorem mem_trimEnd {c : Char} (visible : isBlank c = false) {cs : List Char} (member : c ∈ cs) :
    c ∈ trimEnd cs := by
  rw [trimEnd, List.mem_reverse]
  exact mem_trimStart visible (List.mem_reverse.2 member)

theorem trim_of_visible {s : String} (visible : ∀ c ∈ s.toList, isBlank c = false) :
    trim s = s := by
  have untouched : ∀ cs : List Char, (∀ c ∈ cs, isBlank c = false) → trimStart cs = cs := by
    intro cs each
    cases cs with
    | nil => rfl
    | cons c rest =>
      exact List.dropWhile_cons_of_neg (Bool.eq_false_iff.1 (each c List.mem_cons_self))
  have reversed : trimStart s.toList.reverse = s.toList.reverse :=
    untouched _ fun c member => visible c (List.mem_reverse.1 member)
  rw [trim, untouched _ visible, trimEnd]
  change String.ofList (trimStart s.toList.reverse).reverse = s
  rw [reversed, List.reverse_reverse, String.ofList_toList]

theorem isBlankText_trim (s : String) : isBlankText (trim s) = isBlankText s := by
  rw [Bool.eq_iff_iff, isBlankText, isBlankText, trim, String.toList_ofList, List.all_eq_true,
    List.all_eq_true]
  constructor
  · intro blanks c member
    by_contra visible
    rw [Bool.not_eq_true] at visible
    have kept := mem_trimEnd visible (mem_trimStart visible member)
    exact absurd (blanks c kept) (Bool.eq_false_iff.1 visible)
  · intro blanks c member
    have inner : c ∈ trimStart s.toList := by
      rw [trimEnd_eq_rdropWhile] at member
      exact (List.rdropWhile_prefix _ _).subset member
    exact blanks c ((List.dropWhile_suffix _).subset inner)

theorem isBlankText_iff (s : String) : isBlankText s = true ↔ trim s = "" := by
  constructor
  · intro blank
    have nothing : trimStart s.toList = [] :=
      List.dropWhile_eq_nil_iff.2 (List.all_eq_true.1 blank)
    rw [trim, nothing]
    rfl
  · intro empty
    rw [← isBlankText_trim, empty]
    rfl

theorem isBlankText_eq_false_iff (s : String) : isBlankText s = false ↔ trim s ≠ "" := by
  rw [← Bool.not_eq_true, isBlankText_iff]

/-- Characters that start with no blank still do so when the blanks behind them are gone. -/
theorem trimStart_trimEnd_trimStart (cs : List Char) :
    trimStart (trimEnd (trimStart cs)) = trimEnd (trimStart cs) := by
  cases trimmed : trimEnd (trimStart cs) with
  | nil => rfl
  | cons c rest =>
    have front : c :: rest <+: trimStart cs := by
      rw [← trimmed, trimEnd_eq_rdropWhile]
      exact List.rdropWhile_prefix _ _
    obtain ⟨others, split⟩ := front
    have visible := List.head?_dropWhile_not isBlank cs
    rw [show cs.dropWhile isBlank = c :: (rest ++ others) from split.symm] at visible
    exact List.dropWhile_cons_of_neg (by simpa using visible)

theorem trim_trim (s : String) : trim (trim s) = trim s := by
  unfold trim
  rw [String.toList_ofList, trimStart_trimEnd_trimStart, trimEnd_eq_rdropWhile,
    trimEnd_eq_rdropWhile, List.rdropWhile_idempotent]

end HeaderBindings.Text
