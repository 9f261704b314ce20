import HeaderBindings.Proofs.Artifact.FirstLine

/-!
# The place where a word stands first

The words of a text are collected line by line, but the number that each of them gets can be told
without lines: it is one more than the number of line feeds before the first place where the word
stands (`firstLines_counts_line_feeds`). A line feed is no word character, so no word reaches over
the end of a line, and a carriage return that is dropped at the end of a line belongs to no word.

The proof goes through a scan of the whole text that counts line feeds on its way
(`numberedSpellings`). The scan by lines is the same list (`numberedFrom_lines_eq`).
-/

namespace HeaderBindings.Artifact

open HeaderBindings.Text

/-- Whether a word stands between two parts of characters, with no word character next to it. -/
structure StandsBetween (cs before word after : List Char) : Prop where
  split : cs = before ++ (word ++ after)
  starts : ∀ c ∈ before.getLast?, isWordChar c = false
  ends : ∀ c ∈ after.head?, isWordChar c = false

/-- Whether a word stands behind the given characters and at no place before that. -/
structure StandsFirst (cs before word : List Char) : Prop where
  stands : ∃ after, StandsBetween cs before word after
  least : ∀ other after, StandsBetween cs other word after → before.length ≤ other.length

section Places

variable {run word : List Char} (each : ∀ c ∈ run, isWordChar c = true)
  (letters : ∀ c ∈ word, isWordChar c = true) (nonempty : word ≠ [])

include each letters nonempty

/-- A word stands in a run and what follows it as the whole run, or at a place behind the character
that ends the run. -/
theorem standsBetween_append_iff {rest : List Char}
    (ended : ∀ c ∈ rest.head?, isWordChar c = false) (before after : List Char) :
    StandsBetween (run ++ rest) before word after ↔ (before = [] ∧ word = run ∧ after = rest) ∨
      ∃ c tail gap, rest = c :: tail ∧ before = run ++ c :: gap ∧
        StandsBetween tail gap word after := by
  constructor
  · rintro ⟨split, starts, ends⟩
    rcases List.append_eq_append_iff.1 split with ⟨gap, rfl, later⟩ | ⟨others, rfl, overlap⟩
    · cases gap with
      | nil =>
        -- The word would start with the character that ends the run.
        obtain ⟨first, others, rfl⟩ := List.exists_cons_of_ne_nil nonempty
        rw [later] at ended
        exact absurd (letters first List.mem_cons_self) (Bool.eq_false_iff.1 (ended first rfl))
      | cons c gap =>
        refine .inr ⟨c, gap ++ (word ++ after), gap, later, rfl, rfl, fun d last => ?_, ends⟩
        apply starts d
        rw [Option.mem_def] at last ⊢
        rw [List.getLast?_append, List.getLast?_cons, last]
        rfl
    · have first := eq_nil_of_starts each starts
      subst first
      have whole := congrArg (List.takeWhile isWordChar) overlap
      rw [takeWhile_isWordChar letters ends] at whole
      have same : word = others := whole.trans (takeWhile_isWordChar each ended)
      exact .inl ⟨rfl, same, List.append_cancel_left (same ▸ overlap)⟩
  · rintro (⟨rfl, rfl, rfl⟩ | ⟨c, tail, gap, rfl, rfl, ⟨split, starts, ends⟩⟩)
    · exact ⟨rfl, by simp, ended⟩
    · refine ⟨by rw [split, List.append_assoc, List.cons_append], fun d last => ?_, ends⟩
      rw [Option.mem_def, List.getLast?_append, List.getLast?_cons] at last
      cases final : gap.getLast? with
      | none =>
        rw [final] at last
        rw [← Option.some.inj last]
        exact ended c rfl
      | some e =>
        rw [final] at last
        rw [← Option.some.inj last]
        exact starts e final

theorem standsFirst_run_iff (before : List Char) :
    StandsFirst run before word ↔ word = run ∧ before = [] := by
  have ended : ∀ c ∈ ([] : List Char).head?, isWordChar c = false := by simp
  have places := standsBetween_append_iff each letters nonempty ended
  rw [List.append_nil] at places
  constructor
  · rintro ⟨⟨after, stands⟩, -⟩
    rcases (places before after).1 stands with ⟨first, same, -⟩ | ⟨_, _, _, none, -⟩
    · exact ⟨same, first⟩
    · cases none
  · rintro ⟨same, rfl⟩
    exact ⟨⟨[], (places [] []).2 (.inl ⟨rfl, same, rfl⟩)⟩, fun _ _ _ => Nat.zero_le _⟩

/-- The first place of a word is the run at the start, or else the first place behind the character
that ends this run. -/
theorem standsFirst_append_separator_iff {c : Char} (separates : isWordChar c = false)
    (tail before : List Char) : StandsFirst (run ++ c :: tail) before word ↔
      if word = run then before = [] else ∃ gap, before = run ++ c :: gap ∧
        StandsFirst tail gap word := by
  have ended : ∀ d ∈ (c :: tail).head?, isWordChar d = false := by simpa using separates
  have places := standsBetween_append_iff each letters nonempty ended
  split
  · rename_i same
    have start : StandsBetween (run ++ c :: tail) [] word (c :: tail) :=
      (places [] (c :: tail)).2 (.inl ⟨rfl, same, rfl⟩)
    constructor
    · exact fun first => List.eq_nil_of_length_eq_zero (Nat.le_zero.1 (first.least _ _ start))
    · rintro rfl
      exact ⟨⟨_, start⟩, fun _ _ _ => Nat.zero_le _⟩
  · rename_i different
    have behind : ∀ other after, StandsBetween (run ++ c :: tail) other word after ↔
        ∃ gap, other = run ++ c :: gap ∧ StandsBetween tail gap word after := by
      intro other after
      rw [places]
      constructor
      · rintro (⟨-, same, -⟩ | ⟨_, _, gap, ⟨rfl, rfl⟩, rfl, stands⟩)
        · exact absurd same different
        · exact ⟨gap, rfl, stands⟩
      · rintro ⟨gap, rfl, stands⟩
        exact .inr ⟨c, tail, gap, rfl, rfl, stands⟩
    constructor
    · rintro ⟨⟨after, stands⟩, least⟩
      obtain ⟨gap, rfl, inner⟩ := (behind before after).1 stands
      refine ⟨gap, rfl, ⟨after, inner⟩, fun other rest place => ?_⟩
      have shorter := least _ rest ((behind _ rest).2 ⟨other, rfl, place⟩)
      rw [List.length_append, List.length_append, List.length_cons, List.length_cons] at shorter
      omega
    · rintro ⟨gap, rfl, ⟨after, inner⟩, least⟩
      refine ⟨⟨after, (behind _ after).2 ⟨gap, rfl, inner⟩⟩, fun other rest place => ?_⟩
      obtain ⟨next, rfl, later⟩ := (behind other rest).1 place
      have shorter := least next rest later
      rw [List.length_append, List.length_append, List.length_cons, List.length_cons]
      omega

end Places

/-- The words of characters behind a run in reverse, each with the number of the line that it ends
on. The line of the run has the given number. -/
def numberedSpellings (number : Nat) (run : List Char) : List Char → List (String × Nat)
  | [] => (runSpelling run).map (·, number)
  | c :: rest =>
    if isWordChar c then numberedSpellings number (c :: run) rest
    else (runSpelling run).map (·, number) ++
      numberedSpellings (if c = '\n' then number + 1 else number) [] rest

theorem numberedSpellings_of_no_line_feed (number : Nat) (run : List Char) {line : List Char}
    (inside : '\n' ∉ line) :
    numberedSpellings number run line = (spellings run line).map (·, number) := by
  induction line generalizing run with
  | nil => rfl
  | cons c rest ih =>
    obtain ⟨different, later⟩ := not_or.1 (mt List.mem_cons.2 inside)
    rw [numberedSpellings, spellings, if_neg (Ne.symm different)]
    split
    · exact ih _ later
    · rw [ih _ later, List.map_append]

/-- The words up to a line feed have the number of its line. -/
theorem numberedSpellings_append_line_feed (number : Nat) (run : List Char) {line : List Char}
    (inside : '\n' ∉ line) (rest : List Char) :
    numberedSpellings number run (line ++ '\n' :: rest) =
      (spellings run line).map (·, number) ++ numberedSpellings (number + 1) [] rest := by
  induction line generalizing run with
  | nil => rfl
  | cons c line ih =>
    obtain ⟨different, later⟩ := not_or.1 (mt List.mem_cons.2 inside)
    rw [List.cons_append, numberedSpellings, spellings, if_neg (Ne.symm different)]
    split
    · exact ih _ later
    · rw [ih _ later, List.map_append, List.append_assoc]

/-- Numbering the words line by line is numbering them in one scan. -/
theorem numberedFrom_linesFrom_eq (number : Nat) {pending : List Char} (inside : '\n' ∉ pending)
    (cs : List Char) : numberedFrom number (linesFrom pending cs) =
      numberedSpellings number [] (pending.reverse ++ cs) := by
  have reversed : '\n' ∉ pending.reverse := mt List.mem_reverse.1 inside
  induction cs generalizing number pending with
  | nil =>
    rw [List.append_nil, numberedSpellings_of_no_line_feed number [] reversed]
    unfold linesFrom
    cases pending with
    | nil => rfl
    | cons c earlier =>
      change (identifiers (c :: earlier).reverse).map (fun w => (w.text, number)) ++ [] = _
      rw [List.append_nil, map_identifiers_eq]
  | cons c cs ih =>
    unfold linesFrom
    split
    · rename_i lineFeed
      rw [lineFeed, numberedFrom, map_identifiers_eq, spellings_dropReturn,
        numberedSpellings_append_line_feed number [] reversed,
        ih (number + 1) List.not_mem_nil List.not_mem_nil]
      rfl
    · rename_i other
      have longer : '\n' ∉ c :: pending := mt List.mem_cons.1 (not_or.2 ⟨Ne.symm other, inside⟩)
      rw [ih number longer (mt List.mem_reverse.1 longer), List.reverse_cons, List.append_assoc,
        List.singleton_append]

theorem numberedFrom_lines_eq (text : String) :
    numberedFrom 1 (lines text) = numberedSpellings 1 [] text.toList :=
  numberedFrom_linesFrom_eq 1 List.not_mem_nil text.toList

theorem count_line_feed_of_run {run : List Char} (each : ∀ c ∈ run, isWordChar c = true) :
    run.count '\n' = 0 := by
  rw [List.count_eq_zero]
  exact fun member => absurd (each '\n' member) (by decide)

section Scan

variable {word : String} (identifier : IsIdentifier word)

include identifier

theorem lookup_runSpelling {run : List Char} (each : ∀ c ∈ run, isWordChar c = true)
    (number : Nat) : ((runSpelling run).map (·, number)).lookup word =
      if word.toList = run.reverse then some number else none := by
  rw [lookup_numbered]
  simp only [mem_runSpelling_iff each, identifier, true_and]

/-- In one scan a word gets the number of line feeds before its first place, added to the number of
the line that the scan starts on. -/
theorem lookup_numberedSpellings_eq_some_iff (number : Nat) {run : List Char}
    (each : ∀ c ∈ run, isWordChar c = true) (cs : List Char) (found : Nat) :
    (numberedSpellings number run cs).lookup word = some found ↔
      ∃ before, StandsFirst (run.reverse ++ cs) before word.toList ∧
        found = number + before.count '\n' := by
  induction cs generalizing number run with
  | nil =>
    have reversed := forall_mem_reverse each
    simp only [numberedSpellings, lookup_runSpelling identifier each, List.append_nil,
      standsFirst_run_iff reversed identifier.1 identifier.ne_nil]
    by_cases whole : word.toList = run.reverse
    · simp [whole, eq_comm]
    · simp [whole]
  | cons c cs ih =>
    rw [numberedSpellings]
    split
    · rename_i inner
      have longer : ∀ d ∈ c :: run, isWordChar d = true := List.forall_mem_cons.2 ⟨inner, each⟩
      rw [ih number longer, List.reverse_cons, List.append_assoc, List.singleton_append]
    · rename_i separates
      have reversed := forall_mem_reverse each
      simp only [List.lookup_append, lookup_runSpelling identifier each,
        standsFirst_append_separator_iff reversed identifier.1 identifier.ne_nil
          (Bool.eq_false_iff.2 separates)]
      by_cases whole : word.toList = run.reverse
      · simp [whole, eq_comm]
      · -- The run and the separator shift the place, and the separator may be a line feed.
        have shift : ∀ gap : List Char, number + (run.reverse ++ c :: gap).count '\n' =
            (if c = '\n' then number + 1 else number) + gap.count '\n' := by
          intro gap
          rw [List.count_append, count_line_feed_of_run reversed, List.count_cons]
          by_cases lineFeed : c = '\n'
          · simp [lineFeed]
            omega
          · simp [lineFeed]
        have next := ih (if c = '\n' then number + 1 else number) (List.forall_mem_nil _)
        rw [List.reverse_nil, List.nil_append] at next
        rw [if_neg whole, Option.none_or, next]
        simp only [if_neg whole]
        constructor
        · rintro ⟨gap, first, rfl⟩
          exact ⟨_, ⟨gap, rfl, first⟩, (shift gap).symm⟩
        · rintro ⟨_, ⟨gap, rfl, first⟩, rfl⟩
          exact ⟨gap, first, shift gap⟩

theorem find?_firstLines_of_identifier (text : String) (number : Nat) :
    (firstLines text).find? word = some number ↔
      ∃ before, StandsFirst text.toList before word.toList ∧ number = 1 + before.count '\n' := by
  rw [firstLines, NameMap.find?_ofListFirst, numberedFrom_lines_eq,
    lookup_numberedSpellings_eq_some_iff identifier 1 (List.forall_mem_nil _)]
  rfl

end Scan

/-- A scan finds the words that stand in the text as identifiers, and the line that it gives a word
is one more than the number of line feeds before the first place of the word. -/
theorem firstLines_counts_line_feeds (text word : String) :
    (word ∈ (firstLines text).names ↔ Mentions text word) ∧
      ∀ number, (firstLines text).find? word = some number ↔ IsIdentifier word ∧
        ∃ before, StandsFirst text.toList before word.toList ∧
          number = 1 + before.count '\n' := by
  have key := mem_names_firstLines_iff text word
  refine ⟨key, fun number => ⟨fun found => ?_, fun ⟨identifier, first⟩ => ?_⟩⟩
  · have identifier := (key.1 ((NameMap.mem_names_iff _ word).2 ⟨number, found⟩)).1
    exact ⟨identifier, (find?_firstLines_of_identifier identifier text number).1 found⟩
  · exact (find?_firstLines_of_identifier identifier text number).2 first

end HeaderBindings.Artifact
