import HeaderBindings.Proofs.Exclusion
import HeaderBindings.Proofs.Text.Trim

/-!
# Exclusions made of extra names

Extra names are trimmed; blank ones and repetitions are passed over. So the exclusions made of
them exclude the built-in declarations and the extra ones, whatever the order of the names
(`excludes_withExtra_iff`). The declarations of such a list are tidy: distinct, not blank and
trimmed (`tidy_withExtra`). A tidy list is made of its own declarations (`withExtra_declarations`).

Of two lists, one may exclude all that the other excludes. It then covers all that the other
covers (`covering?_isSome_of_within`).
-/

namespace HeaderBindings

open HeaderBindings.Text

namespace ExclusionList

/-- The declarations that extra names stand for: the names that are not blank, trimmed, without
those that are excluded anyway. -/
def extraDeclarations (extra : List String) : List String :=
  ((extra.filter fun name => !isBlankText name).map trim).filter fun name => name ∉ builtIn

theorem mem_extraDeclarations_iff (extra : List String) (declaration : String) :
    declaration ∈ extraDeclarations extra ↔
      (∃ name ∈ extra, isBlankText name = false ∧ trim name = declaration) ∧
        declaration ∉ builtIn := by
  simp only [extraDeclarations, List.mem_filter, List.mem_map, Bool.not_eq_true',
    decide_eq_true_iff, and_assoc]

theorem mem_declarations_iff (l : ExclusionList) (declaration : String) :
    declaration ∈ l.declarations ↔ l.excludes declaration = true := by
  rw [excludes_iff, declarations, List.mem_map]

section Adding

variable (l : ExclusionList) (name : String)

theorem declarations_add : (l.add name).declarations =
    if isBlankText name || l.excludes (trim name) then l.declarations
    else l.declarations ++ [trim name] := by
  rw [add]
  split
  · rfl
  · simp [declarations]

/-- One extra name excludes one more declaration, unless it is blank. -/
theorem excludes_add_iff (declaration : String) : (l.add name).excludes declaration = true ↔
    l.excludes declaration = true ∨ isBlankText name = false ∧ trim name = declaration := by
  rw [← mem_declarations_iff, declarations_add, ← mem_declarations_iff]
  split
  · rename_i passed
    refine (or_iff_left_of_imp ?_).symm
    rintro ⟨visible, rfl⟩
    rw [visible, Bool.false_or] at passed
    exact (mem_declarations_iff l _).2 passed
  · rename_i added
    rw [Bool.or_eq_true, not_or, Bool.not_eq_true] at added
    rw [List.mem_append, List.mem_singleton, and_iff_right added.1, eq_comm]

variable (extra : List String)

/-- What a whole run over extra names adds. -/
theorem excludes_foldl_add_iff (declaration : String) :
    (extra.foldl add l).excludes declaration = true ↔ l.excludes declaration = true ∨
      ∃ name ∈ extra, isBlankText name = false ∧ trim name = declaration := by
  induction extra generalizing l with
  | nil => simp
  | cons name rest ih =>
    rw [List.foldl_cons, ih, excludes_add_iff, or_assoc, List.exists_mem_cons_iff]

theorem rules_prefix_foldl_add : l.rules <+: (extra.foldl add l).rules := by
  induction extra generalizing l with
  | nil => exact List.prefix_refl _
  | cons name rest ih =>
    have step : l.rules <+: (l.add name).rules := by
      rw [add]
      split
      · exact List.prefix_refl _
      · exact List.prefix_append _ _
    exact step.trans (ih (l.add name))

end Adding

/-- The exclusions made of extra names exclude the built-in declarations and the extra ones. -/
theorem excludes_withExtra_iff (extra : List String) (declaration : String) :
    (withExtra extra).excludes declaration = true ↔
      declaration ∈ builtIn ∨ declaration ∈ extraDeclarations extra := by
  have start : (ExclusionList.mk (builtIn.map Exclusion.mk)).excludes declaration = true ↔
      declaration ∈ builtIn := by
    simp [excludes_iff]
  rw [withExtra, excludes_foldl_add_iff, start, mem_extraDeclarations_iff, or_and_left]
  exact (and_iff_left (Decidable.em _)).symm

/-- Exclusions whose declarations are distinct, not blank and trimmed. -/
structure Tidy (l : ExclusionList) : Prop where
  distinct : l.declarations.Nodup
  visible : ∀ declaration ∈ l.declarations, isBlankText declaration = false
  trimmed : ∀ declaration ∈ l.declarations, trim declaration = declaration

theorem Tidy.add {l : ExclusionList} (tidy : l.Tidy) (name : String) : (l.add name).Tidy := by
  have grown := declarations_add l name
  split at grown
  · exact ⟨grown ▸ tidy.distinct, grown ▸ tidy.visible, grown ▸ tidy.trimmed⟩
  · rename_i added
    rw [Bool.or_eq_true, not_or, Bool.not_eq_true, ← mem_declarations_iff] at added
    obtain ⟨visible, absent⟩ := added
    refine ⟨?_, ?_, ?_⟩
    · rw [grown, List.nodup_append]
      refine ⟨tidy.distinct, List.pairwise_singleton _ _, fun a member b last same => ?_⟩
      rw [List.mem_singleton.1 last] at same
      exact absent (same ▸ member)
    · rw [grown, List.forall_mem_append]
      exact ⟨tidy.visible, List.forall_mem_singleton.2 ((isBlankText_trim name).trans visible)⟩
    · rw [grown, List.forall_mem_append]
      exact ⟨tidy.trimmed, List.forall_mem_singleton.2 (trim_trim name)⟩

theorem Tidy.foldl_add {l : ExclusionList} (tidy : l.Tidy) (extra : List String) :
    (extra.foldl ExclusionList.add l).Tidy := by
  induction extra generalizing l with
  | nil => exact tidy
  | cons name rest ih => exact ih (tidy.add name)

theorem tidy_builtIn : (ExclusionList.mk (builtIn.map Exclusion.mk)).Tidy :=
  ⟨by decide, by decide, by decide⟩

theorem tidy_withExtra (extra : List String) : (withExtra extra).Tidy :=
  tidy_builtIn.foldl_add extra

/-- New names that need no trimming are added as they are. -/
theorem foldl_add_of_new {l : ExclusionList} {names : List String}
    (distinct : (l.declarations ++ names).Nodup)
    (visible : ∀ name ∈ names, isBlankText name = false) (trimmed : ∀ name ∈ names, trim name = name) :
    names.foldl add l = ⟨l.rules ++ names.map Exclusion.mk⟩ := by
  induction names generalizing l with
  | nil => simp
  | cons name rest ih =>
    obtain ⟨visibleName, visibleRest⟩ := List.forall_mem_cons.1 visible
    obtain ⟨trimmedName, trimmedRest⟩ := List.forall_mem_cons.1 trimmed
    have absent : l.excludes name ≠ true := by
      intro excluded
      have present := (mem_declarations_iff l name).2 excluded
      exact (List.nodup_append.1 distinct).2.2 name present name List.mem_cons_self rfl
    have step : l.add name = ⟨l.rules ++ [⟨name⟩]⟩ := by
      rw [add, trimmedName, visibleName, Bool.false_or, if_neg absent]
    have later : ((l.add name).declarations ++ rest).Nodup := by
      rw [step]
      simpa [declarations] using distinct
    rw [List.foldl_cons, ih later visibleRest trimmedRest, step]
    simp

/-- A list of exclusions is made again from its own declarations. -/
theorem withExtra_declarations (extra : List String) :
    withExtra (withExtra extra).declarations = withExtra extra := by
  obtain ⟨added, split⟩ := rules_prefix_foldl_add ⟨builtIn.map Exclusion.mk⟩ extra
  have rules : (withExtra extra).rules = builtIn.map Exclusion.mk ++ added := split.symm
  have names : (withExtra extra).declarations = builtIn ++ added.map (·.declaration) := by
    rw [declarations, rules, List.map_append, List.map_map]
    exact congrArg (· ++ _) (List.map_id _)
  have tidy := tidy_withExtra extra
  have again : builtIn.foldl add ⟨builtIn.map Exclusion.mk⟩ = ⟨builtIn.map Exclusion.mk⟩ := by
    decide
  have distinct : ((ExclusionList.mk (builtIn.map Exclusion.mk)).declarations ++
      added.map (·.declaration)).Nodup := names ▸ tidy.distinct
  have inside : ∀ name ∈ added.map (·.declaration), name ∈ (withExtra extra).declarations :=
    fun name member => names ▸ List.mem_append_right builtIn member
  rw [names, withExtra, List.foldl_append, again,
    foldl_add_of_new distinct (fun name member => tidy.visible name (inside name member))
      fun name member => tidy.trimmed name (inside name member)]
  rw [List.map_map, show (Exclusion.mk ∘ fun e : Exclusion => e.declaration) = id from rfl, List.map_id,
    ← rules]

section Within

variable {l m : ExclusionList} (within : ∀ name, l.excludes name = true → m.excludes name = true)

include within

theorem excludes_eq_false_of_within {name : String} (kept : m.excludes name = false) :
    l.excludes name = false := by
  rw [Bool.eq_false_iff] at kept ⊢
  exact fun excluded => kept (within name excluded)

theorem covering?_isSome_of_within {symbol : String}
    (covered : (l.covering? symbol).isSome = true) : (m.covering? symbol).isSome = true := by
  obtain ⟨⟨declaration⟩, member, covers⟩ := (covering?_isSome_iff l symbol).1 covered
  obtain ⟨⟨other⟩, listed, same⟩ := (excludes_iff m declaration).1
    (within declaration ((excludes_iff l declaration).2 ⟨_, member, rfl⟩))
  cases same
  exact (covering?_isSome_iff m symbol).2 ⟨_, listed, covers⟩

theorem covering?_eq_none_of_within {symbol : String} (uncovered : m.covering? symbol = none) :
    l.covering? symbol = none := by
  rw [← Option.not_isSome_iff_eq_none] at uncovered ⊢
  exact fun covered => uncovered (covering?_isSome_of_within within covered)

end Within

end ExclusionList

end HeaderBindings
