import HeaderBindings.Artifact.Identifier
import HeaderBindings.Proofs.NameMap

/-!
# What an artifact mentions

`Mentions text word` says, without lines and scanning, that `word` stands in `text` as an
identifier: as a run of word characters that does not start with a digit and that no word
character continues on either side. The identifiers found in a text are exactly the words
that it mentions (`contains_firstLines_iff`).

Everything rests on one equation: a character that is no word character cuts the words of
a text in two (`spellings_append_separator`). Line ends are such characters.
-/

namespace HeaderBindings.Artifact

open HeaderBindings.Text

/-- Whether a word is an identifier: word characters, of which there is a first that is no digit. -/
def IsIdentifier (word : String) : Prop :=
  (∀ c ∈ word.toList, isWordChar c = true) ∧ ∃ c ∈ word.toList.head?, c.isDigit = false

theorem isIdentifier_iff (word : String) : IsIdentifier word ↔
    word.toList.all isWordChar = true ∧ (word.toList.head?.any fun c => !c.isDigit) = true := by
  unfold IsIdentifier
  cases word.toList.head? <;> simp

-- Only the letters of the word are tested, never all characters that there are.
instance (word : String) : Decidable (IsIdentifier word) :=
  decidable_of_iff' _ (isIdentifier_iff word)

/-- Whether a word stands among characters with no word character on either side of it. -/
def StandsIn (cs word : List Char) : Prop :=
  ∃ before after, cs = before ++ (word ++ after) ∧
    (∀ c ∈ before.getLast?, isWordChar c = false) ∧ ∀ c ∈ after.head?, isWordChar c = false

/-- Whether a word stands in a text as an identifier. -/
def Mentions (text word : String) : Prop :=
  IsIdentifier word ∧ StandsIn text.toList word.toList

/-- The word that a run in reverse is, if it is an identifier. -/
def runSpelling (run : List Char) : List String :=
  match run.reverse with
  | [] => []
  | first :: others => if first.isDigit then [] else [String.ofList (first :: others)]

/-- The words of characters behind a run in reverse, without their places. -/
def spellings (run : List Char) : List Char → List String
  | [] => runSpelling run
  | c :: rest =>
    if isWordChar c then spellings (c :: run) rest else runSpelling run ++ spellings [] rest

theorem map_text_ofRun (run : List Char) (ending : Nat) (after : List Char) :
    (ofRun run ending after).map (·.text) = runSpelling run := by
  unfold ofRun runSpelling
  cases run.reverse with
  | nil => rfl
  | cons first others => cases digit : first.isDigit <;> simp [digit]

theorem map_text_identifiersFrom (offset : Nat) (run cs : List Char) :
    (identifiersFrom offset run cs).map (·.text) = spellings run cs := by
  induction cs generalizing offset run with
  | nil => exact map_text_ofRun run offset []
  | cons c cs ih =>
    unfold identifiersFrom spellings
    split
    · exact ih _ _
    · rw [List.map_append, map_text_ofRun, ih]

theorem map_text_identifiers (line : List Char) :
    (identifiers line).map (·.text) = spellings [] line :=
  map_text_identifiersFrom 0 [] line

theorem map_identifiers_eq (line : List Char) (number : Nat) :
    (identifiers line).map (fun w => (w.text, number)) = (spellings [] line).map (·, number) := by
  rw [← map_text_identifiers, List.map_map]
  rfl

theorem spellings_append_run (run : List Char) {word : List Char}
    (each : ∀ c ∈ word, isWordChar c = true) (cs : List Char) :
    spellings run (word ++ cs) = spellings (word.reverse ++ run) cs := by
  induction word generalizing run with
  | nil => rfl
  | cons c word ih =>
    rw [List.cons_append, spellings, if_pos (each c List.mem_cons_self),
      ih _ fun d later => each d (List.mem_cons_of_mem c later), List.reverse_cons,
      List.append_assoc, List.singleton_append]

/-- A character that is no word character cuts the words in two. -/
theorem spellings_append_separator {c : Char} (separates : isWordChar c = false)
    (run before after : List Char) :
    spellings run (before ++ c :: after) = spellings run before ++ spellings [] after := by
  induction before generalizing run with
  | nil => simp [spellings, separates]
  | cons d before ih =>
    rw [List.cons_append, spellings, spellings]
    split
    · exact ih _
    · rw [ih, List.append_assoc]

theorem spellings_dropReturn (pending : List Char) :
    spellings [] (dropReturn pending).reverse = spellings [] pending.reverse := by
  unfold dropReturn
  split
  · rename_i earlier
    rw [List.reverse_cons, spellings_append_separator (by decide)]
    exact (List.append_nil _).symm
  · rfl

theorem flatMap_spellings_linesFrom (pending cs : List Char) :
    (linesFrom pending cs).flatMap (spellings []) = spellings [] (pending.reverse ++ cs) := by
  induction cs generalizing pending with
  | nil =>
    unfold linesFrom
    cases pending with
    | nil => rfl
    | cons c pending => simp
  | cons c cs ih =>
    unfold linesFrom
    split
    · rename_i lineFeed
      rw [lineFeed, List.flatMap_cons, spellings_dropReturn, ih,
        spellings_append_separator (by decide)]
      rfl
    · rw [ih, List.reverse_cons, List.append_assoc, List.singleton_append]

/-- Lines do not matter for the words of a text. -/
theorem flatMap_spellings_lines (text : String) :
    (lines text).flatMap (spellings []) = spellings [] text.toList :=
  flatMap_spellings_linesFrom [] text.toList

theorem takeWhile_isWordChar {word after : List Char} (each : ∀ c ∈ word, isWordChar c = true)
    (ends : ∀ c ∈ after.head?, isWordChar c = false) :
    (word ++ after).takeWhile isWordChar = word := by
  rw [List.takeWhile_append_of_pos each]
  cases after with
  | nil => exact List.append_nil word
  | cons c rest => rw [List.takeWhile_cons, if_neg (Bool.eq_false_iff.1 (ends c rfl)), List.append_nil]

theorem forall_mem_reverse {run : List Char} (each : ∀ c ∈ run, isWordChar c = true) :
    ∀ c ∈ run.reverse, isWordChar c = true :=
  fun c member => each c (List.mem_reverse.1 member)

theorem mem_runSpelling_iff {run : List Char} (each : ∀ c ∈ run, isWordChar c = true)
    (word : String) : word ∈ runSpelling run ↔ IsIdentifier word ∧ word.toList = run.reverse := by
  have reversed := forall_mem_reverse each
  unfold runSpelling IsIdentifier
  cases letters : run.reverse with
  | nil =>
    constructor
    · exact fun none => absurd none List.not_mem_nil
    · rintro ⟨⟨-, c, first, -⟩, empty⟩
      rw [empty] at first
      cases first
  | cons first others =>
    rw [letters] at reversed
    have spelled : word = String.ofList (first :: others) ↔ word.toList = first :: others := by
      rw [← String.toList_inj, String.toList_ofList]
    cases digit : first.isDigit with
    | true =>
      simp only [digit, if_true, List.not_mem_nil, false_iff]
      rintro ⟨⟨-, c, start, notDigit⟩, same⟩
      rw [same] at start
      cases start
      exact absurd digit (Bool.eq_false_iff.1 notDigit)
    | false =>
      simp only [digit, Bool.false_eq_true, if_false, List.mem_singleton, spelled]
      refine ⟨fun same => ⟨?_, same⟩, And.right⟩
      rw [same]
      exact ⟨reversed, first, rfl, digit⟩

theorem eq_nil_of_starts {before others : List Char}
    (each : ∀ c ∈ before ++ others, isWordChar c = true)
    (starts : ∀ c ∈ before.getLast?, isWordChar c = false) : before = [] := by
  cases last : before.getLast? with
  | none => exact List.getLast?_eq_none_iff.1 last
  | some c =>
    have inside := each c (List.mem_append_left _ (List.mem_of_getLast? last))
    exact absurd inside (Bool.eq_false_iff.1 (starts c last))

theorem not_standsIn_nil {word : List Char} (nonempty : word ≠ []) : ¬ StandsIn [] word := by
  rintro ⟨before, after, split, -, -⟩
  have none := (List.append_eq_nil_iff.1 split.symm).2
  exact nonempty (List.append_eq_nil_iff.1 none).1

/-- A word stands in a run and what follows it as the whole run or behind the character that ends
the run. -/
theorem standsIn_append {run rest word : List Char} (each : ∀ c ∈ run, isWordChar c = true)
    (ended : ∀ c ∈ rest.head?, isWordChar c = false) (letters : ∀ c ∈ word, isWordChar c = true)
    (nonempty : word ≠ []) : StandsIn (run ++ rest) word ↔ word = run ∨ StandsIn rest.tail word := by
  constructor
  · rintro ⟨before, after, split, starts, ends⟩
    rcases List.append_eq_append_iff.1 split with ⟨gap, rfl, later⟩ | ⟨others, rfl, overlap⟩
    · cases gap with
      | nil =>
        -- The word would start with the character that ends the run.
        obtain ⟨first, others, rfl⟩ := List.exists_cons_of_ne_nil nonempty
        rw [later] at ended
        have start := letters first List.mem_cons_self
        exact absurd start (Bool.eq_false_iff.1 (ended first rfl))
      | cons c gap =>
        refine .inr ⟨gap, after, by rw [later]; rfl, fun d last => starts d ?_, ends⟩
        rw [Option.mem_def] at last ⊢
        rw [List.getLast?_append, List.getLast?_cons, last]
        rfl
    · have first := eq_nil_of_starts each starts
      subst first
      have whole := congrArg (List.takeWhile isWordChar) overlap
      rw [takeWhile_isWordChar letters ends] at whole
      exact .inl (whole.trans (takeWhile_isWordChar each ended))
  · rintro (rfl | ⟨before, after, split, starts, ends⟩)
    · exact ⟨[], rest, rfl, by simp, ended⟩
    · cases rest with
      | nil => exact absurd ⟨before, after, split, starts, ends⟩ (not_standsIn_nil nonempty)
      | cons c rest =>
        refine ⟨run ++ c :: before, after, ?_, ?_, ends⟩
        · rw [List.append_assoc, List.cons_append, ← split]
          rfl
        · intro d last
          rw [Option.mem_def, List.getLast?_append, List.getLast?_cons] at last
          cases final : before.getLast? with
          | none =>
            rw [final] at last
            rw [← Option.some.inj last]
            exact ended c rfl
          | some e =>
            rw [final] at last
            rw [← Option.some.inj last]
            exact starts e final

theorem IsIdentifier.ne_nil {word : String} (identifier : IsIdentifier word) : word.toList ≠ [] := by
  obtain ⟨-, c, first, -⟩ := identifier
  rintro empty
  rw [empty] at first
  cases first

theorem IsIdentifier.append {word rest : String} (identifier : IsIdentifier word)
    (each : rest.toList.all isWordChar = true) : IsIdentifier (word ++ rest) := by
  obtain ⟨letters, c, first, start⟩ := identifier
  rw [IsIdentifier, String.toList_append]
  refine ⟨fun d member => ?_, c, ?_, start⟩
  · rcases List.mem_append.1 member with inside | inside
    · exact letters d inside
    · exact List.all_eq_true.1 each d inside
  · rw [Option.mem_def] at first ⊢
    rw [List.head?_append, first]
    rfl

theorem IsIdentifier.mentions_self {word : String} (identifier : IsIdentifier word) :
    Mentions word word :=
  ⟨identifier, [], [], by simp, by simp, by simp⟩

theorem not_mentions_empty (word : String) : ¬ Mentions "" word :=
  fun ⟨identifier, stands⟩ => not_standsIn_nil identifier.ne_nil stands

theorem mem_spellings_iff {run : List Char} (each : ∀ c ∈ run, isWordChar c = true)
    (cs : List Char) (word : String) :
    word ∈ spellings run cs ↔ IsIdentifier word ∧ StandsIn (run.reverse ++ cs) word.toList := by
  -- The run belongs to the text: a word character only moves it from the rest into the run.
  induction cs generalizing run with
  | nil =>
    rw [spellings, mem_runSpelling_iff each]
    refine and_congr_right fun identifier => ?_
    rw [standsIn_append (forall_mem_reverse each) (by simp) identifier.1 identifier.ne_nil]
    exact (or_iff_left (not_standsIn_nil identifier.ne_nil)).symm
  | cons c cs ih =>
    rw [spellings]
    split
    · rename_i inner
      rw [ih (List.forall_mem_cons.2 ⟨inner, each⟩), List.reverse_cons,
        List.append_assoc, List.singleton_append]
    · rename_i separates
      rw [List.mem_append, mem_runSpelling_iff each, ih (List.forall_mem_nil _), ← and_or_left]
      refine and_congr_right fun identifier => ?_
      rw [standsIn_append (forall_mem_reverse each) (by simpa using separates)
        identifier.1 identifier.ne_nil]
      rfl

theorem map_fst_numberedFrom (number : Nat) (ls : List (List Char)) :
    (numberedFrom number ls).map (·.1) = ls.flatMap (spellings []) := by
  induction ls generalizing number with
  | nil => rfl
  | cons line rest ih =>
    rw [numberedFrom, List.map_append, List.map_map, ih, List.flatMap_cons,
      ← map_text_identifiers line]
    rfl

theorem mentions_iff_exists_line (text word : String) :
    Mentions text word ↔ ∃ line ∈ lines text, word ∈ spellings [] line := by
  rw [← List.mem_flatMap, flatMap_spellings_lines, mem_spellings_iff (List.forall_mem_nil _)]
  rfl

/-- An identifier is the only word in it. -/
theorem IsIdentifier.spellings_eq {word : String} (identifier : IsIdentifier word) :
    spellings [] word.toList = [word] := by
  obtain ⟨letters, c, first, start⟩ := identifier
  obtain ⟨others, split⟩ := List.head?_eq_some_iff.1 (Option.mem_def.1 first)
  rw [← List.append_nil word.toList, spellings_append_run [] letters, spellings, runSpelling,
    List.append_nil, List.reverse_reverse, split]
  simp only [start, Bool.false_eq_true, if_false, ← split, String.ofList_toList]

/-- The identifiers found in a text are the words that it mentions. -/
theorem contains_firstLines_iff (text word : String) :
    (firstLines text).contains word = true ↔ Mentions text word := by
  rw [NameMap.contains_iff, firstLines, NameMap.mem_names_ofListFirst, map_fst_numberedFrom,
    List.mem_flatMap, mentions_iff_exists_line]

end HeaderBindings.Artifact
