import HeaderBindings.IntegerType
import HeaderBindings.Proofs.Text.Trim

/-!
# The words for integer types

Each integer type has four words that stand for it, and no word stands for two types
(`ofBindingName?_eq_some_iff`). So the signedness of a type can be read off its word
(`mem_unsignedWords_iff`). A C name with blanks around it is the name of at most one type too, and
so are a size and a signedness together (`ofCName?_eq_some_iff`, `ofSize?_eq_some_iff`).
-/

namespace HeaderBindings

open HeaderBindings.Text

namespace IntegerType

/-- The words that stand for an integer type. -/
def words (t : IntegerType) : List String :=
  t.name :: t.bindingNames

/-- The words that stand for unsigned integer types. -/
def unsignedWords : List String :=
  (all.filter fun t => !t.signed).flatMap words

theorem mem_all (t : IntegerType) : t ∈ all := by
  obtain ⟨width, signed⟩ := t
  cases width <;> cases signed <;> decide

theorem holds_greatest (t : IntegerType) :
    t.holds t.greatest = true ∧ t.holds (t.greatest + 1) = false := by
  have table : ∀ t ∈ all, t.holds t.greatest = true ∧ t.holds (t.greatest + 1) = false := by decide
  exact table t t.mem_all

/-- A word without blanks names the integer type that it is listed for. -/
theorem ofBindingName?_eq_some_iff {word : String}
    (visible : ∀ c ∈ word.toList, isBlank c = false) (t : IntegerType) :
    ofBindingName? word = some t ↔ word ∈ t.words := by
  constructor
  · intro known
    unfold ofBindingName? at known
    split at known
    · rename_i u found
      have listed := List.find?_some found
      rw [← Option.some.inj known]
      exact List.mem_cons_of_mem _ (List.contains_iff_mem.1 listed)
    · have listed := List.find?_some known
      have named : t.name = trim word := beq_iff_eq.1 listed
      rw [trim_of_visible visible] at named
      rw [words, named]
      exact List.mem_cons_self
  · have table : ∀ u ∈ all, ∀ word ∈ u.words, ofBindingName? word = some u := by decide
    exact table t (mem_all t) word

theorem mem_unsignedWords_iff {word : String} (visible : ∀ c ∈ word.toList, isBlank c = false)
    {t : IntegerType} (known : ofBindingName? word = some t) :
    word ∈ unsignedWords ↔ t.signed = false := by
  simp only [unsignedWords, List.mem_flatMap, List.mem_filter, mem_all, true_and,
    Bool.not_eq_true', ← ofBindingName?_eq_some_iff visible]
  constructor
  · rintro ⟨u, unsigned, other⟩
    rwa [Option.some.inj (known.symm.trans other)]
  · exact fun unsigned => ⟨t, unsigned, known⟩

theorem mem_names_iff (name : String) :
    name ∈ all.map (·.name) ↔ ∃ t : IntegerType, name = t.name := by
  rw [List.mem_map]
  constructor
  · rintro ⟨t, -, rfl⟩
    exact ⟨t, rfl⟩
  · rintro ⟨t, rfl⟩
    exact ⟨t, mem_all t, rfl⟩

theorem ofCName?_eq_some_iff (name : String) (t : IntegerType) :
    ofCName? name = some t ↔ trim name = t.name := by
  constructor
  · intro found
    have listed := List.find?_some found
    exact (beq_iff_eq.1 listed).symm
  · intro named
    have table : ∀ u ∈ all, (all.find? fun t => t.name == u.name) = some u := by decide
    rw [ofCName?, named]
    exact table t (mem_all t)

theorem ofSize?_eq_some_iff (size : Nat) (signed : Bool) (t : IntegerType) :
    ofSize? size signed = some t ↔ size = t.size ∧ signed = t.signed := by
  constructor
  · intro found
    have fits := List.find?_some found
    rw [Bool.and_eq_true, beq_iff_eq, beq_iff_eq] at fits
    exact ⟨fits.1.symm, fits.2.symm⟩
  · rintro ⟨rfl, rfl⟩
    have table : ∀ u ∈ all, ofSize? u.size u.signed = some u := by decide
    exact table t (mem_all t)

end IntegerType

end HeaderBindings
