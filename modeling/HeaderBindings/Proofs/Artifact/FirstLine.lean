import HeaderBindings.Proofs.Artifact.Mention

/-!
# The line on which a word is mentioned first

`FirstMentioned text word number` says that the line of this number mentions the word and no
line before it does. A scan of the text finds exactly this number
(`find?_firstLines_eq_some_iff`), and it counts each word that the text mentions once
(`exists_words_size_firstLines`).
-/

namespace HeaderBindings.Artifact

open HeaderBindings.Text

/-- Whether the line of a number, counted from one, is the first line that mentions a word. -/
def FirstMentioned (text word : String) (number : Nat) : Prop :=
  ∃ before line after, lines text = before ++ line :: after ∧ number = before.length + 1 ∧
    Mentions (String.ofList line) word ∧
    ∀ earlier ∈ before, ¬ Mentions (String.ofList earlier) word

theorem mentions_line_iff (line : List Char) (word : String) :
    Mentions (String.ofList line) word ↔ word ∈ spellings [] line := by
  rw [mem_spellings_iff (List.forall_mem_nil _), Mentions, String.toList_ofList]
  rfl

/-- Words that all have the same number give it to each of them. -/
theorem lookup_numbered (words : List String) (word : String) (number : Nat) :
    (words.map (·, number)).lookup word = if word ∈ words then some number else none := by
  induction words with
  | nil => rfl
  | cons first rest ih =>
    rw [List.map_cons, NameMap.lookup_cons_eq, ih]
    by_cases same : word = first
    · simp [same]
    · simp [same]

/-- On one line every word has the number of the line. -/
theorem lookup_line (line : List Char) (word : String) (number : Nat) :
    ((identifiers line).map fun w => (w.text, number)).lookup word =
      if word ∈ spellings [] line then some number else none := by
  rw [map_identifiers_eq, lookup_numbered]

/-- The number of a word is that of the first line that has it. The numbers of the lines that are
left start with the given one. -/
theorem lookup_numberedFrom_eq_some_iff (number : Nat) (ls : List (List Char)) (word : String)
    (found : Nat) :
    (numberedFrom number ls).lookup word = some found ↔
      ∃ before line after, ls = before ++ line :: after ∧ found = number + before.length ∧
        word ∈ spellings [] line ∧ ∀ earlier ∈ before, word ∉ spellings [] earlier := by
  induction ls generalizing number with
  | nil => simp [numberedFrom]
  | cons first rest ih =>
    rw [numberedFrom, List.lookup_append, lookup_line]
    by_cases here : word ∈ spellings [] first
    · rw [if_pos here, Option.some_or, Option.some.injEq]
      constructor
      · rintro rfl
        exact ⟨[], first, rest, rfl, rfl, here, List.forall_mem_nil _⟩
      · rintro ⟨before, line, after, split, rfl, -, absent⟩
        cases before with
        | nil => rfl
        | cons earlier before =>
          obtain ⟨rfl, -⟩ := List.cons.inj split
          exact absurd here (absent first List.mem_cons_self)
    · rw [if_neg here, Option.none_or, ih]
      constructor
      · rintro ⟨before, line, after, rfl, rfl, inside, absent⟩
        refine ⟨first :: before, line, after, rfl, ?_, inside,
          List.forall_mem_cons.2 ⟨here, absent⟩⟩
        rw [List.length_cons]
        omega
      · rintro ⟨before, line, after, split, rfl, inside, absent⟩
        cases before with
        | nil =>
          obtain ⟨rfl, -⟩ := List.cons.inj split
          exact absurd inside here
        | cons earlier before =>
          obtain ⟨rfl, rfl⟩ := List.cons.inj split
          refine ⟨before, line, after, rfl, ?_, inside, (List.forall_mem_cons.1 absent).2⟩
          rw [List.length_cons]
          omega

/-- The line that a scan gives a word is the first one that mentions it. -/
theorem find?_firstLines_eq_some_iff (text word : String) (number : Nat) :
    (firstLines text).find? word = some number ↔ FirstMentioned text word number := by
  rw [firstLines, NameMap.find?_ofListFirst, lookup_numberedFrom_eq_some_iff]
  simp only [FirstMentioned, mentions_line_iff, Nat.add_comm 1]

theorem mem_names_firstLines_iff (text word : String) :
    word ∈ (firstLines text).names ↔ Mentions text word := by
  rw [← NameMap.contains_iff, contains_firstLines_iff]

/-- A scan finds every word that the text mentions, and finds it once. -/
theorem exists_words_size_firstLines (text : String) :
    ∃ words : List String, words.Nodup ∧ (∀ word, word ∈ words ↔ Mentions text word) ∧
      (firstLines text).size = words.length :=
  ⟨(firstLines text).names, (firstLines text).names_nodup, mem_names_firstLines_iff text,
    (List.length_map _).symm⟩

end HeaderBindings.Artifact
