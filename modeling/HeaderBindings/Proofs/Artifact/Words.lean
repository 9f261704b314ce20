import HeaderBindings.Proofs.Artifact.Mention
import HeaderBindings.Proofs.Text.UpperCase
import HeaderBindings.Text.Blank

/-!
# The words around a word

Where a word stands on a line, the identifiers of the line are those of what stands before it,
the word itself with all that stands behind it, and those of what stands behind
(`exists_identifiers_append`). So the words of a line can be read off its parts, and the parts may
hold any names.
-/

namespace HeaderBindings.Artifact

open HeaderBindings.Text

theorem toNat_of_isWordChar {c : Char} (inner : isWordChar c = true) :
    48 ≤ c.toNat ∧ c.toNat ≤ 122 := by
  rcases Bool.or_eq_true_iff.1 inner with alphanumeric | underscore
  · have letter : (c.isUpper || c.isLower || c.isDigit) = true := alphanumeric
    have digit : c.isDigit = true ↔ 48 ≤ c.toNat ∧ c.toNat ≤ 57 := Char.isDigit_iff_toNat
    rw [Bool.or_eq_true, Bool.or_eq_true, isUpper_iff, isLower_iff, digit] at letter
    omega
  · rw [beq_iff_eq.1 underscore]
    decide

theorem isBlank_of_isWordChar {c : Char} (inner : isWordChar c = true) : isBlank c = false := by
  have code := toNat_of_isWordChar inner
  unfold isBlank
  simp only [Bool.or_eq_false_iff, Bool.and_eq_false_iff, decide_eq_false_iff_not,
    beq_eq_false_iff_ne]
  omega

/-- Boundaries of a word, in a form that can be evaluated. -/
theorem isWordChar_eq_false_of_any {next : Option Char} (separate : next.any isWordChar = false) :
    ∀ c ∈ next, isWordChar c = false := by
  rintro c rfl
  exact separate

theorem IsIdentifier.not_mem {word : String} (identifier : IsIdentifier word) {c : Char}
    (separates : isWordChar c = false) : c ∉ word.toList :=
  fun member => absurd (identifier.1 c member) (Bool.eq_false_iff.1 separates)

section Spellings

theorem mentions_iff_mem_spellings (text word : String) :
    Mentions text word ↔ word ∈ spellings [] text.toList :=
  (mem_spellings_iff (List.forall_mem_nil _) text.toList word).symm

theorem isIdentifier_of_mem_spellings {line : List Char} {word : String}
    (member : word ∈ spellings [] line) : IsIdentifier word :=
  ((mem_spellings_iff (List.forall_mem_nil _) line word).1 member).1

theorem spellings_separator {c : Char} (separates : isWordChar c = false) (rest : List Char) :
    spellings [] (c :: rest) = spellings [] rest :=
  spellings_append_separator separates [] [] rest

theorem spellings_concat_separator {c : Char} (separates : isWordChar c = false)
    (front : List Char) : spellings [] (front ++ [c]) = spellings [] front := by
  rw [spellings_append_separator separates]
  exact List.append_nil _

/-- A word that a separator ends is the first word. -/
theorem IsIdentifier.spellings_append {word : String} (identifier : IsIdentifier word) {c : Char}
    (separates : isWordChar c = false) (rest : List Char) :
    spellings [] (word.toList ++ c :: rest) = word :: spellings [] rest := by
  rw [spellings_append_separator separates, identifier.spellings_eq]
  rfl

end Spellings

theorem exists_identifiersFrom_run (offset : Nat) (run : List Char) {word : List Char}
    (each : ∀ c ∈ word, isWordChar c = true) (rest : List Char) :
    ∃ ending, identifiersFrom offset run (word ++ rest) =
      identifiersFrom ending (word.reverse ++ run) rest := by
  induction word generalizing offset run with
  | nil => exact ⟨offset, rfl⟩
  | cons c word ih =>
    obtain ⟨inner, others⟩ := List.forall_mem_cons.1 each
    obtain ⟨ending, same⟩ := ih (offset + c.utf8Size) (c :: run) others
    refine ⟨ending, ?_⟩
    rw [List.cons_append, identifiersFrom, if_pos inner, same, List.reverse_cons, List.append_assoc,
      List.singleton_append]

/-- A word at the start is the first identifier, with all the rest behind it. -/
theorem exists_identifiersFrom_word {word : String} (identifier : IsIdentifier word) (offset : Nat)
    {rest : List Char} (ends : ∀ c ∈ rest.head?, isWordChar c = false) :
    ∃ start later, identifiersFrom offset [] (word.toList ++ rest) = ⟨start, word, rest⟩ :: later ∧
      later.map (·.text) = spellings [] rest := by
  obtain ⟨ending, same⟩ := exists_identifiersFrom_run offset [] identifier.1 rest
  have whole : ∀ after, ofRun (word.toList.reverse ++ []) ending after =
      [⟨ending - word.toList.reverse.length, word, after⟩] := by
    intro after
    obtain ⟨-, first, head, start⟩ := identifier
    obtain ⟨others, split⟩ := List.head?_eq_some_iff.1 (Option.mem_def.1 head)
    rw [List.append_nil, ofRun, List.reverse_reverse, split]
    simp only [start, Bool.false_eq_true, if_false, ← split, String.ofList_toList]
  rw [same]
  cases rest with
  | nil => exact ⟨_, [], whole [], rfl⟩
  | cons c rest =>
    have separates : isWordChar c = false := ends c rfl
    rw [identifiersFrom, if_neg (Bool.eq_false_iff.1 separates), whole]
    refine ⟨_, identifiersFrom (ending + c.utf8Size) [] rest, rfl, ?_⟩
    rw [map_text_identifiersFrom, spellings_separator separates]

/-- The identifiers up to a separator are those of the characters before it. -/
theorem exists_identifiersFrom_separator (offset : Nat) (run front : List Char) {c : Char}
    (separates : isWordChar c = false) (rest : List Char) :
    ∃ before start, identifiersFrom offset run (front ++ c :: rest) =
      before ++ identifiersFrom start [] rest ∧ before.map (·.text) = spellings run front := by
  induction front generalizing offset run with
  | nil =>
    refine ⟨ofRun run offset (c :: rest), offset + c.utf8Size, ?_, map_text_ofRun _ _ _⟩
    rw [List.nil_append, identifiersFrom, if_neg (Bool.eq_false_iff.1 separates)]
  | cons d front ih =>
    rw [List.cons_append, identifiersFrom, spellings]
    split
    · exact ih _ _
    · obtain ⟨before, start, same, words⟩ := ih (offset + d.utf8Size) []
      refine ⟨ofRun run offset (d :: (front ++ c :: rest)) ++ before, start, ?_, ?_⟩
      · rw [same, List.append_assoc]
      · rw [List.map_append, map_text_ofRun, words]

/-- Where a word stands on a line, it is an identifier with all the rest behind it, between the
words of what stands on its two sides. -/
theorem exists_identifiers_append {word : String} (identifier : IsIdentifier word)
    {front rest : List Char} (starts : ∀ c ∈ front.getLast?, isWordChar c = false)
    (ends : ∀ c ∈ rest.head?, isWordChar c = false) :
    ∃ before start later, identifiers (front ++ (word.toList ++ rest)) =
      before ++ ⟨start, word, rest⟩ :: later ∧
      before.map (·.text) = spellings [] front ∧ later.map (·.text) = spellings [] rest := by
  unfold identifiers
  cases last : front.getLast? with
  | none =>
    rw [List.getLast?_eq_none_iff.1 last]
    obtain ⟨start, later, same, words⟩ := exists_identifiersFrom_word identifier 0 ends
    exact ⟨[], start, later, same, rfl, words⟩
  | some c =>
    obtain ⟨earlier, rfl⟩ := List.getLast?_eq_some_iff.1 last
    have separates : isWordChar c = false := starts c last
    obtain ⟨before, offset, same, words⟩ :=
      exists_identifiersFrom_separator 0 [] earlier separates (word.toList ++ rest)
    obtain ⟨start, later, next, following⟩ := exists_identifiersFrom_word identifier offset ends
    refine ⟨before, start, later, ?_, ?_, following⟩
    · rw [List.append_assoc, List.singleton_append, same, next]
    · rw [words, spellings_concat_separator separates]

end HeaderBindings.Artifact
