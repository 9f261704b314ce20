import HeaderBindings.Proofs.Exclusion
import HeaderBindings.Proofs.Text.ConstantCase

/-!
# Symbols built from the stems of an exclusion

An exclusion covers the declaration and whatever starts with its function stem. Constants are
compared without the underscores in front of them, but with the stem as it is. The two agree
unless the declaration starts with an underscore: then its constant stem does as well, and no
symbol that has lost its underscores starts with it. The only symbols built from such a stem
that are still covered are those that happen to be spelled like a function
(`covers_stems_iff`).
-/

namespace HeaderBindings

open HeaderBindings.Text

namespace Exclusion

theorem head?_bare_ne (symbol : String) : (bare symbol).head? ≠ some '_' := by
  intro first
  have stop := List.head?_dropWhile_not (· == '_') symbol.toList
  rw [show (symbol.toList.dropWhile (· == '_')).head? = some '_' from first] at stop
  cases stop

/-- A declaration that starts with an underscore has no symbol that is spelled like a constant. -/
theorem covers_iff_of_underscore {e : Exclusion}
    (underscore : e.declaration.toList.head? = some '_') (symbol : String) :
    e.covers symbol = true ↔ symbol = e.declaration ∨ e.functionStem.toList <+: symbol.toList := by
  have start := (constantCase_starts_with_underscore_iff e.declaration).2 underscore
  obtain ⟨others, spelled⟩ := List.head?_eq_some_iff.1 start
  rw [covers_iff]
  refine or_congr_right (or_iff_left ?_)
  -- Either spelling of a constant would start with an underscore, and `bare` has removed them all.
  rintro (⟨rest, split⟩ | whole)
  · apply head?_bare_ne symbol
    rw [← split, constantStem, String.toList_append, spelled]
    rfl
  · apply head?_bare_ne symbol
    rw [whole, start]

section ConstantStem

variable (e : Exclusion) (rest : String)

theorem toList_constantStem_append :
    (e.constantStem ++ rest).toList =
      (constantCase e.declaration).toList ++ '_' :: rest.toList := by
  simp [constantStem]

/-- A symbol built from the constant stem is never the declaration. -/
theorem constantStem_append_ne : e.constantStem ++ rest ≠ e.declaration := by
  intro same
  have spelled := toList_constantStem_append e rest
  rw [same] at spelled
  rcases constantCase_eq_or_apart e.declaration with own | apart
  · rw [own] at spelled
    exact List.cons_ne_nil _ _ (List.append_right_eq_self.1 spelled.symm)
  · exact apart.2 ⟨'_' :: rest.toList, spelled.symm⟩

/-- A symbol built from the constant stem is spelled like a function only where the stems differ by
one underscore and the symbol has it. -/
theorem functionStem_prefix_iff :
    e.functionStem.toList <+: (e.constantStem ++ rest).toList ↔
      constantCase e.declaration = e.declaration ∧ rest.toList.head? = some '_' := by
  have function : e.functionStem.toList = e.declaration.toList ++ ['_', '_'] := by
    simp [functionStem]
  rw [function, toList_constantStem_append]
  rcases constantCase_eq_or_apart e.declaration with own | apart
  · rw [own, List.prefix_append_right_inj, List.cons_prefix_cons, List.head?_eq_some_iff]
    simp [List.IsPrefix, eq_comm]
  · refine iff_of_false (apart.append _ _).1 ?_
    intro both
    rw [both.1] at apart
    exact apart.1 (List.prefix_refl _)

end ConstantStem

end Exclusion

/-- Every exclusion covers its declaration and what is built from its function stem. It covers what
is built from its constant stem as well, except where the declaration starts with an underscore:
there only symbols that are spelled like a function of it are left. -/
theorem covers_stems_iff (e : Exclusion) (named : e.declaration ≠ "") (rest : String) :
    e.covers e.declaration = true ∧ e.covers (e.functionStem ++ rest) = true ∧
      (e.covers (e.constantStem ++ rest) = true ↔ e.declaration.toList.head? ≠ some '_' ∨
        (constantCase e.declaration = e.declaration ∧ rest.toList.head? = some '_')) := by
  refine ⟨e.covers_declaration, e.covers_function rest, ?_⟩
  by_cases underscore : e.declaration.toList.head? = some '_'
  · rw [Exclusion.covers_iff_of_underscore underscore, Exclusion.functionStem_prefix_iff,
      or_iff_right (e.constantStem_append_ne rest), or_iff_right (not_not_intro underscore)]
  · refine iff_of_true ?_ (.inl underscore)
    obtain ⟨c, first⟩ := exists_head_constantCase named
    have other : c ≠ '_' := by
      rintro rfl
      exact underscore ((constantCase_starts_with_underscore_iff e.declaration).1 first)
    have front : ("" : String).toList.all (· == '_') = true := rfl
    exact Exclusion.covers_constant front ⟨c, first, other⟩
      (.inr ⟨rest, String.empty_append.symm⟩)

/-- The constants of a declaration that starts with a letter are covered. -/
theorem covers_ignored_monday :
    let e : Exclusion := ⟨"EnumIgnored"⟩
    e.declaration ≠ "" ∧ e.covers (e.constantStem ++ "MONDAY") = true := by
  intro e
  have named : e.declaration ≠ "" := by decide
  exact ⟨named, (covers_stems_iff e named "MONDAY").2.2.2 (.inl (by decide))⟩

/-- The constants of a declaration that starts with an underscore are not covered. -/
theorem not_covers_underscore_constant :
    let e : Exclusion := ⟨"_Foo"⟩
    e.declaration ≠ "" ∧ trim e.declaration = e.declaration ∧
      e.covers (e.constantStem ++ "BAR") = false := by
  decide +kernel

end HeaderBindings
