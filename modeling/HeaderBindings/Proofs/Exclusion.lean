import HeaderBindings.Exclusion
import HeaderBindings.Proofs.Text.UpperCase

/-!
# What an exclusion covers

An exclusion covers a symbol that is spelled like the declaration, like one of its
functions or like one of its constants. The last two readings can be ruled out from the
symbol alone, whatever the declaration is: a symbol with a small letter before its first
inner underscore is never spelled like a constant, and one without two adjacent
underscores is never spelled like a function (`Plain.covers_iff`).
-/

namespace HeaderBindings

open HeaderBindings.Text

namespace Exclusion

/-- A symbol without the underscores in front of it. -/
def bare (symbol : String) : List Char :=
  symbol.toList.dropWhile (· == '_')

theorem covers_iff (e : Exclusion) (symbol : String) :
    e.covers symbol = true ↔ symbol = e.declaration ∨ e.functionStem.toList <+: symbol.toList ∨
      e.constantStem.toList <+: bare symbol ∨ bare symbol = (constantCase e.declaration).toList := by
  simp only [covers, startsWith, bare, Bool.or_eq_true, beq_iff_eq, List.isPrefixOf_iff_prefix,
    or_assoc]

theorem covers_declaration (e : Exclusion) : e.covers e.declaration = true :=
  (covers_iff e e.declaration).2 (.inl rfl)

theorem covers_function (e : Exclusion) (rest : String) :
    e.covers (e.functionStem ++ rest) = true := by
  rw [covers_iff]
  refine .inr (.inl ?_)
  rw [String.toList_append]
  exact List.prefix_append _ _

theorem bare_eq {front stem rest : List Char} {symbol : String}
    (spelled : symbol.toList = front ++ (stem ++ rest)) (underscores : front.all (· == '_') = true)
    (start : ∃ c ∈ stem.head?, c ≠ '_') : bare symbol = stem ++ rest := by
  obtain ⟨c, first, different⟩ := start
  obtain ⟨others, rfl⟩ := List.head?_eq_some_iff.1 (Option.mem_def.1 first)
  rw [bare, spelled, List.dropWhile_append_of_pos (List.all_eq_true.1 underscores), List.cons_append]
  exact List.dropWhile_cons_of_neg (by simpa using different)

/-- Underscores in front of a constant do not matter. -/
theorem covers_constant {e : Exclusion} {front symbol : String}
    (underscores : front.toList.all (· == '_') = true)
    (start : ∃ c ∈ (constantCase e.declaration).toList.head?, c ≠ '_')
    (spelled : symbol = front ++ constantCase e.declaration ∨
      ∃ rest, symbol = front ++ (e.constantStem ++ rest)) : e.covers symbol = true := by
  rw [covers_iff]
  rcases spelled with rfl | ⟨rest, rfl⟩
  · refine .inr (.inr (.inr ?_))
    have split : (front ++ constantCase e.declaration).toList =
        front.toList ++ ((constantCase e.declaration).toList ++ []) := by simp
    rw [bare_eq split underscores start, List.append_nil]
  · refine .inr (.inr (.inl ?_))
    have split : (front ++ (e.constantStem ++ rest)).toList =
        front.toList ++ ((constantCase e.declaration).toList ++ ('_' :: rest.toList)) := by
      simp [constantStem]
    rw [bare_eq split underscores start, constantStem, String.toList_append]
    exact ⟨rest.toList, by simp⟩

/-- Whether the first word of a symbol has a small letter. -/
def hasSmallStart (symbol : String) : Bool :=
  ((bare symbol).takeWhile (· != '_')).any Char.isLower

theorem mem_of_mem_takeWhile_append {c : Char} {front rest : List Char}
    (member : c ∈ (front ++ '_' :: rest).takeWhile (· != '_')) : c ∈ front := by
  induction front with
  | nil => simp at member
  | cons d front ih =>
    rw [List.cons_append, List.takeWhile_cons] at member
    split at member
    · rcases List.mem_cons.1 member with rfl | later
      · exact List.mem_cons_self
      · exact List.mem_cons_of_mem d (ih later)
    · cases member

/-- The first word of a symbol that is spelled like a constant is taken from the constant case of
the declaration. -/
theorem mem_constantCase_of_stem {e : Exclusion} {symbol : String} {c : Char}
    (spelled : e.constantStem.toList <+: bare symbol ∨
      bare symbol = (constantCase e.declaration).toList)
    (member : c ∈ (bare symbol).takeWhile (· != '_')) :
    c ∈ (constantCase e.declaration).toList := by
  rcases spelled with ⟨rest, split⟩ | whole
  · rw [constantStem, String.toList_append, List.append_assoc] at split
    rw [← split] at member
    exact mem_of_mem_takeWhile_append member
  · rw [← whole]
    exact (List.takeWhile_prefix _).subset member

theorem covers_iff_of_hasSmallStart {symbol : String} (small : hasSmallStart symbol = true)
    (e : Exclusion) :
    e.covers symbol = true ↔ symbol = e.declaration ∨ e.functionStem.toList <+: symbol.toList := by
  rw [covers_iff]
  refine or_congr_right (or_iff_left fun spelled => ?_)
  obtain ⟨c, member, lower⟩ := List.any_eq_true.1 small
  have upper := isLower_of_mem_constantCase (mem_constantCase_of_stem spelled member)
  exact absurd lower (Bool.eq_false_iff.1 upper)

/-- Whether two underscores stand next to each other. -/
def hasDoubleUnderscore : List Char → Bool
  | a :: b :: rest => (a == '_' && b == '_') || hasDoubleUnderscore (b :: rest)
  | _ => false

theorem hasDoubleUnderscore_append (front rest : List Char) :
    hasDoubleUnderscore (front ++ '_' :: '_' :: rest) = true := by
  induction front with
  | nil => rfl
  | cons a front ih =>
    cases front with
    | nil => simp [hasDoubleUnderscore]
    | cons b front =>
      rw [List.cons_append, List.cons_append, hasDoubleUnderscore, ← List.cons_append, ih,
        Bool.or_true]

/-- A name that is spelled neither like a function nor like a constant of any declaration. -/
structure Plain (symbol : String) : Prop where
  small : hasSmallStart symbol = true
  single : hasDoubleUnderscore symbol.toList = false

instance (symbol : String) : Decidable (Plain symbol) :=
  decidable_of_iff (hasSmallStart symbol = true ∧ hasDoubleUnderscore symbol.toList = false)
    ⟨fun ⟨small, single⟩ => ⟨small, single⟩, fun plain => ⟨plain.small, plain.single⟩⟩

/-- Only the exclusion of a plain name covers it. -/
theorem Plain.covers_iff {symbol : String} (plain : Plain symbol) (e : Exclusion) :
    e.covers symbol = true ↔ symbol = e.declaration := by
  rw [covers_iff_of_hasSmallStart plain.small]
  refine or_iff_left fun ⟨rest, split⟩ => ?_
  have double := hasDoubleUnderscore_append e.declaration.toList rest
  rw [functionStem, String.toList_append, List.append_assoc] at split
  exact absurd (split ▸ double) (Bool.eq_false_iff.1 plain.single)

end Exclusion

namespace ExclusionList

variable (l : ExclusionList) (symbol : String)

theorem excludes_iff : l.excludes symbol = true ↔ ∃ e ∈ l.rules, e.declaration = symbol := by
  simp [excludes]

theorem covering?_isSome_iff :
    (l.covering? symbol).isSome = true ↔ ∃ e ∈ l.rules, e.covers symbol = true := by
  simp [covering?]

theorem covering?_eq_none_iff :
    l.covering? symbol = none ↔ ∀ e ∈ l.rules, e.covers symbol = false := by
  simp [covering?]

variable {l symbol}

/-- An excluded declaration is covered. -/
theorem covering?_isSome_of_excludes (excluded : l.excludes symbol = true) :
    (l.covering? symbol).isSome = true := by
  obtain ⟨e, member, rfl⟩ := (excludes_iff l symbol).1 excluded
  exact (covering?_isSome_iff l e.declaration).2 ⟨e, member, e.covers_declaration⟩

/-- A plain name that is not excluded is covered by no exclusion. -/
theorem covers_eq_false_of_plain (plain : Exclusion.Plain symbol)
    (kept : l.excludes symbol = false) : ∀ e ∈ l.rules, e.covers symbol = false := by
  intro e member
  rw [Bool.eq_false_iff, ne_eq, plain.covers_iff]
  intro same
  have excluded := (excludes_iff l symbol).2 ⟨e, member, same.symm⟩
  exact absurd excluded (Bool.eq_false_iff.1 kept)

end ExclusionList

end HeaderBindings
