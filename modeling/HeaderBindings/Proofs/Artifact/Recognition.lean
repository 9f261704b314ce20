import HeaderBindings.Proofs.Artifact.Storage
import HeaderBindings.Proofs.Artifact.Words
import HeaderBindings.Proofs.Text.Line
import Mathlib.Data.List.TakeWhile

/-!
# How a line gives storage

What a line says about a name depends on the words before the name, on what stands directly
behind it and on the words behind it; for each form there is one lemma that says which of these
words names the storage (`storageWord?_of_…`). The lines before the first one that mentions the
name only count (`storageFrom_append_of_absent`).
-/

namespace HeaderBindings.Artifact

open HeaderBindings.Text

/-- The integer word that a representation attribute among words names. -/
def attributeWord? (words : List String) : Option String :=
  (words.dropWhile (· != "repr")).tail.find? isIntegerWord

theorem reprWord?_eq (words : List Identifier) :
    reprWord? words = attributeWord? (words.map (·.text)) := by
  rw [reprWord?, attributeWord?, List.dropWhile_map, List.map_tail]
  rfl

theorem attributeWord?_eq_none {words : List String} (absent : "repr" ∉ words) :
    attributeWord? words = none := by
  have nothing : words.dropWhile (· != "repr") = [] := by
    rw [List.dropWhile_eq_nil_iff]
    intro word member
    have different : word ≠ "repr" := fun same => absent (same ▸ member)
    simpa using different
  rw [attributeWord?, nothing]
  rfl

theorem mem_of_attributeWord? {words : List String} {word : String}
    (named : attributeWord? words = some word) : word ∈ words :=
  (List.dropWhile_sublist _).mem (List.mem_of_mem_tail (List.mem_of_find?_eq_some named))

/-- The type that the nearest attribute within reach names. Lines are held with the nearest
first. -/
def typeAbove? (above : List (List Char)) : Option String :=
  (above.take attributeReach).findSome? fun line => attributeWord? (spellings [] line)

/-- Of the lines within reach the nearest one whose attribute names a type decides. -/
theorem typeAbove?_eq_some_iff (above : List (List Char)) (type : String) :
    typeAbove? above = some type ↔
      ∃ near line far, above = near ++ line :: far ∧ near.length < attributeReach ∧
        attributeWord? (spellings [] line) = some type ∧
        ∀ other ∈ near, attributeWord? (spellings [] other) = none := by
  rw [typeAbove?, List.findSome?_eq_some_iff]
  constructor
  · rintro ⟨near, line, far, split, named, silent⟩
    refine ⟨near, line, far ++ above.drop attributeReach, ?_, ?_, named, silent⟩
    · have whole := (List.take_append_drop attributeReach above).symm
      rwa [split, List.append_assoc, List.cons_append] at whole
    · have bound := List.length_take_le attributeReach above
      rw [split, List.length_append, List.length_cons] at bound
      omega
  · rintro ⟨near, line, far, rfl, reach, named, silent⟩
    refine ⟨near, line, far.take (attributeReach - near.length - 1), ?_, named, silent⟩
    rw [List.take_append, List.take_of_length_le (Nat.le_of_lt reach), List.take_cons (by omega)]

section Forms

variable {above : List (List Char)} {before later : List Identifier} {found : Identifier}

theorem getLast?_before {previous : String}
    (last : (before.map (·.text)).getLast? = some previous) :
    before.getLast?.map (·.text) = some previous := by
  rw [← List.getLast?_map, last]

/-- A keyword of a form is no integer type. -/
theorem not_mem_storageWords {type : String} (integer : isIntegerWord type = true) :
    type ∉ storageWords := by
  have table : ∀ word ∈ storageWords, isIntegerWord word = false := by decide
  intro listed
  exact absurd integer (Bool.eq_false_iff.1 (table type listed))

theorem storageWord?_of_ascribed (last : (before.map (·.text)).getLast? = some "enum")
    (colon : continuesWith ':' found.after = true) :
    storageWord? above before found later = (later.map (·.text)).head? := by
  rw [storageWord?, getLast?_before last, List.head?_map]
  exact if_pos colon

/-- An enum without a type behind its name has the type of an attribute before it on its line, or
else of the nearest line above that has one, within reach. -/
theorem storageWord?_of_enum (last : (before.map (·.text)).getLast? = some "enum")
    (colon : continuesWith ':' found.after = false) :
    storageWord? above before found later =
      (attributeWord? (before.map (·.text)) <|> typeAbove? above) := by
  simp only [storageWord?, typeAbove?, getLast?_before last, colon, reprWord?_eq,
    map_text_identifiers, if_true, Bool.false_eq_true, if_false]

theorem storageWord?_of_synonym (last : (before.map (·.text)).getLast? = some "type")
    (equals : continuesWith '=' found.after = true) :
    storageWord? above before found later = (later.map (·.text)).find? isIntegerWord := by
  simp [storageWord?, getLast?_before last, equals]

theorem storageWord?_of_wrapper (last : (before.map (·.text)).getLast? = some "struct")
    (bracket : continuesWith '(' found.after = true) {words : List String}
    (behind : later.map (·.text) = words ∧ words.head? ≠ some "pub" ∨
      later.map (·.text) = "pub" :: words) :
    storageWord? above before found later = words.head? := by
  simp only [storageWord?, getLast?_before last, bracket]
  rcases behind with ⟨direct, first⟩ | visible
  · rw [direct]
    cases words with
    | nil => rfl
    | cons word rest =>
      have other : word ≠ "pub" := fun same => first (by rw [same]; rfl)
      simp [other]
  · rw [visible]
    rfl

theorem storageWord?_of_typedef {previous : String}
    (last : (before.map (·.text)).getLast? = some previous) (other : previous ∉ storageWords)
    (first : (before.map (·.text)).head? = some "typedef") (final : later.map (·.text) = []) :
    storageWord? above before found later = some previous := by
  simp only [storageWords, List.mem_cons, List.not_mem_nil, or_false, not_or] at other
  obtain ⟨notEnum, notType, notStruct, -⟩ := other
  rw [List.head?_map] at first
  simp [storageWord?, getLast?_before last, notEnum, notType, notStruct, first,
    List.map_eq_nil_iff.1 final]

end Forms

theorem splitAtWord_append {word : String} {before : List Identifier} {found : Identifier}
    (absent : word ∉ before.map (·.text)) (named : found.text = word) (after : List Identifier) :
    splitAtWord word (before ++ found :: after) = some (before, found, after) := by
  induction before with
  | nil => exact if_pos named
  | cons w rest ih =>
    rw [List.map_cons, List.mem_cons, not_or] at absent
    rw [List.cons_append, splitAtWord, if_neg (Ne.symm absent.1), ih absent.2]
    rfl

theorem splitAtWord_eq_none {word : String} {words : List Identifier}
    (absent : word ∉ words.map (·.text)) : splitAtWord word words = none := by
  induction words with
  | nil => rfl
  | cons w rest ih =>
    rw [List.map_cons, List.mem_cons, not_or] at absent
    rw [splitAtWord, if_neg (Ne.symm absent.1), ih absent.2]
    rfl

theorem lineStorage?_of_absent {name : String} {line : List Char}
    (absent : name ∉ spellings [] line) (number : Nat) (above : List (List Char)) :
    lineStorage? name number above line = none := by
  rw [← map_text_identifiers] at absent
  rw [lineStorage?, splitAtWord_eq_none absent]
  rfl

/-- The lines in front are searched first. The lines behind come after all of them, which stand
above. -/
theorem storageFrom_append (name : String) (number : Nat) (above ls rest : List (List Char)) :
    storageFrom name number above (ls ++ rest) = (storageFrom name number above ls).or
      (storageFrom name (number + ls.length) (ls.reverse ++ above) rest) := by
  induction ls generalizing number above with
  | nil => rfl
  | cons line ls ih =>
    rw [List.cons_append, storageFrom, storageFrom, List.length_cons, List.reverse_cons,
      List.append_assoc, List.singleton_append]
    cases lineStorage? name number above line with
    | some s => rfl
    | none =>
      dsimp only
      rw [ih, Nat.add_assoc, Nat.add_comm 1]

/-- Lines that do not mention a name give it no storage. -/
theorem storageFrom_of_absent {name : String} {ls : List (List Char)}
    (absent : ∀ line ∈ ls, name ∉ spellings [] line) (number : Nat) (above : List (List Char)) :
    storageFrom name number above ls = none := by
  induction ls generalizing number above with
  | nil => rfl
  | cons line ls ih =>
    obtain ⟨first, later⟩ := List.forall_mem_cons.1 absent
    rw [storageFrom, lineStorage?_of_absent first]
    exact ih later _ _

/-- The lines that do not mention a name only count, and they stay above the lines that follow. -/
theorem storageFrom_append_of_absent {name : String} {ls : List (List Char)}
    (absent : ∀ line ∈ ls, name ∉ spellings [] line) (number : Nat)
    (above rest : List (List Char)) : storageFrom name number above (ls ++ rest) =
      storageFrom name (number + ls.length) (ls.reverse ++ above) rest := by
  rw [storageFrom_append, storageFrom_of_absent absent, Option.none_or]

/-- Text before the first line that mentions a name does nothing but count its lines. -/
theorem storage?_append {front name : String} (ends : EndsLine front)
    (absent : ¬ Mentions front name) (rest : String) : storage? (front ++ rest) name =
      storageFrom name (1 + front.toList.count '\n') (lines front).reverse (lines rest) := by
  have missing : ∀ line ∈ lines front, name ∉ spellings [] line := fun line member inside =>
    absent ((mentions_iff_exists_line front name).2 ⟨line, member, inside⟩)
  rw [storage?, lines_append ends, storageFrom_append_of_absent missing, length_lines ends,
    List.append_nil]

/-- The storage that a line gives a name is the one that the first word of this name names. -/
theorem lineStorage?_of_first {name : String} {line : List Char} {before later : List Identifier}
    {found : Identifier} (words : identifiers line = before ++ found :: later)
    (named : found.text = name) (absent : name ∉ before.map (·.text)) (number : Nat)
    (above : List (List Char)) : lineStorage? name number above line =
      (storageWord? above before found later).bind fun spelling =>
        (IntegerType.ofBindingName? spelling).map fun t => ⟨t, spelling, number⟩ := by
  rw [lineStorage?, words, splitAtWord_append absent named later]
  simp only [Option.bind_eq_bind, Option.bind_some, Option.pure_def, Option.map_eq_bind]
  rfl

/-- The storage that a line gives a name that stands on it, by the words around the name. -/
theorem exists_lineStorage?_eq {name : String} (identifier : IsIdentifier name)
    {front rest : List Char} (starts : ∀ c ∈ front.getLast?, isWordChar c = false)
    (ends : ∀ c ∈ rest.head?, isWordChar c = false) (absent : name ∉ spellings [] front) :
    ∃ before start later, before.map (·.text) = spellings [] front ∧
      later.map (·.text) = spellings [] rest ∧ ∀ number above,
        lineStorage? name number above (front ++ (name.toList ++ rest)) =
          (storageWord? above before ⟨start, name, rest⟩ later).bind fun spelling =>
            (IntegerType.ofBindingName? spelling).map fun t => ⟨t, spelling, number⟩ := by
  obtain ⟨before, start, later, same, earlier, following⟩ :=
    exists_identifiers_append identifier starts ends
  have missing : name ∉ before.map (·.text) := earlier ▸ absent
  exact ⟨before, start, later, earlier, following, lineStorage?_of_first same rfl missing⟩

end HeaderBindings.Artifact
