import HeaderBindings.Proofs.Artifact.Recognition
import HeaderBindings.Proofs.Text.Trim

/-!
# Blanks at the ends of lines

A blank at the end of a line is part of no word, and it is never the first visible character
behind a name. So a text is read through its lines without the blanks at their ends
(`trimmedLines`): they decide which words the text has (`firstLines_eq_trimmed`) and which storage
it gives a name (`storage?_eq_trimmed`).
-/

namespace HeaderBindings.Text

/-- The lines of a text, each without the blanks at its end. -/
def trimmedLines (text : String) : List (List Char) :=
  (lines text).map trimEnd

theorem trimEnd_concat {c : Char} (blank : isBlank c = true) (cs : List Char) :
    trimEnd (cs ++ [c]) = trimEnd cs := by
  rw [trimEnd, List.reverse_append, List.reverse_singleton, List.singleton_append,
    List.dropWhile_cons_of_pos blank]
  rfl

/-- The carriage return that belongs to the end of a line is one of the blanks there. -/
theorem trimEnd_dropReturn (pending : List Char) :
    trimEnd (dropReturn pending).reverse = trimEnd pending.reverse := by
  unfold dropReturn
  split
  · rw [List.reverse_cons, trimEnd_concat (by decide)]
  · rfl

/-- What one blank at the end does not change, all of them do not change. -/
theorem apply_trimEnd {α : Type} {f : List Char → α}
    (step : ∀ cs c, isBlank c = true → f (cs ++ [c]) = f cs) (cs : List Char) :
    f (trimEnd cs) = f cs := by
  induction cs using List.reverseRecOn with
  | nil => rfl
  | append_singleton cs c ih =>
    by_cases blank : isBlank c = true
    · rw [trimEnd_concat blank, ih, step cs c blank]
    · rw [trimEnd, List.reverse_append, List.reverse_singleton, List.singleton_append,
        List.dropWhile_cons_of_neg blank, ← List.singleton_append, List.reverse_append,
        List.reverse_reverse, List.reverse_singleton]

end HeaderBindings.Text

namespace HeaderBindings.Artifact

open HeaderBindings.Text

theorem isWordChar_of_isBlank {c : Char} (blank : isBlank c = true) : isWordChar c = false := by
  rw [Bool.eq_false_iff]
  intro inner
  rw [isBlank_of_isWordChar inner] at blank
  cases blank

section Words

/-- An identifier with one more character at the end of its line. -/
def Identifier.extend (c : Char) (w : Identifier) : Identifier :=
  { w with after := w.after ++ [c] }

theorem map_extend_ofRun (c : Char) (run : List Char) (ending : Nat) (after : List Char) :
    (ofRun run ending after).map (·.extend c) = ofRun run ending (after ++ [c]) := by
  unfold ofRun
  cases run.reverse with
  | nil => rfl
  | cons first others => cases digit : first.isDigit <;> simp [digit, Identifier.extend]

/-- A separator at the end of a line only stands behind the identifiers. -/
theorem identifiersFrom_concat {c : Char} (separates : isWordChar c = false) (offset : Nat)
    (run cs : List Char) : identifiersFrom offset run (cs ++ [c]) =
      (identifiersFrom offset run cs).map (·.extend c) := by
  induction cs generalizing offset run with
  | nil =>
    change (if isWordChar c then _ else ofRun run offset [c] ++ []) = (ofRun run offset []).map _
    rw [if_neg (Bool.eq_false_iff.1 separates), List.append_nil, map_extend_ofRun, List.nil_append]
  | cons d cs ih =>
    rw [List.cons_append, identifiersFrom, identifiersFrom]
    split
    · exact ih _ _
    · rw [ih, List.map_append, map_extend_ofRun, List.cons_append]

theorem splitAtWord_map_extend (c : Char) (word : String) (words : List Identifier) :
    splitAtWord word (words.map (·.extend c)) = (splitAtWord word words).map
      fun (before, found, after) =>
        (before.map (·.extend c), found.extend c, after.map (·.extend c)) := by
  induction words with
  | nil => rfl
  | cons w rest ih =>
    rw [List.map_cons, splitAtWord, splitAtWord]
    split
    · rename_i same
      rw [if_pos (show w.text = word from same)]
      rfl
    · rename_i different
      rw [if_neg (show w.text ≠ word from different), ih, Option.map_map, Option.map_map]
      rfl

theorem continuesWith_concat {blank : Char} (isBlank : isBlank blank = true) (c : Char)
    (after : List Char) : continuesWith c (after ++ [blank]) = continuesWith c after := by
  have head : (trimStart (after ++ [blank])).head? = (trimStart after).head? := by
    unfold trimStart
    induction after with
    | nil => rw [List.nil_append, List.dropWhile_cons_of_pos isBlank]
    | cons d after ih =>
      rw [List.cons_append, List.dropWhile_cons, List.dropWhile_cons]
      split
      · exact ih
      · rfl
  rw [continuesWith, head]
  rfl

theorem map_text_map_extend (c : Char) (words : List Identifier) :
    (words.map (·.extend c)).map (·.text) = words.map (·.text) := by
  rw [List.map_map]
  rfl

theorem storageWord?_map_extend {c : Char} (blank : isBlank c = true) (above : List (List Char))
    (before : List Identifier) (found : Identifier) (later : List Identifier) :
    storageWord? above (before.map (·.extend c)) (found.extend c) (later.map (·.extend c)) =
      storageWord? above before found later := by
  have behind : ∀ d, continuesWith d (found.extend c).after = continuesWith d found.after :=
    fun d => continuesWith_concat blank d found.after
  have text : (fun w : Identifier => w.text) ∘ Identifier.extend c = fun w => w.text := rfl
  simp only [storageWord?, behind, reprWord?_eq, map_text_map_extend, List.getLast?_map,
    List.head?_map, Option.map_map, text, List.map_eq_nil_iff]

end Words

theorem spellings_concat_blank (line : List Char) (c : Char) (blank : isBlank c = true) :
    spellings [] (line ++ [c]) = spellings [] line :=
  spellings_concat_separator (isWordChar_of_isBlank blank) line

theorem spellings_trimEnd (line : List Char) : spellings [] (trimEnd line) = spellings [] line :=
  apply_trimEnd spellings_concat_blank line

section Lines

variable (name : String) (number : Nat) (above : List (List Char))

theorem lineStorage?_trimEnd (line : List Char) :
    lineStorage? name number above (trimEnd line) = lineStorage? name number above line := by
  refine apply_trimEnd (fun cs c blank => ?_) line
  rw [lineStorage?, lineStorage?, identifiers, identifiers,
    identifiersFrom_concat (isWordChar_of_isBlank blank), splitAtWord_map_extend]
  cases splitAtWord name (identifiersFrom 0 [] cs) with
  | none => rfl
  | some parts => simp only [Option.map_some, Option.bind_eq_bind, Option.bind_some,
      storageWord?_map_extend blank]

/-- Of the lines above only the words matter. -/
theorem lineStorage?_map_trimEnd (line : List Char) :
    lineStorage? name number (above.map trimEnd) line = lineStorage? name number above line := by
  have attributes : ∀ before found later, storageWord? (above.map trimEnd) before found later =
      storageWord? above before found later := by
    intro before found later
    simp only [storageWord?, reprWord?_eq, map_text_identifiers, ← List.map_take,
      List.findSome?_map, Function.comp_def, spellings_trimEnd]
  simp only [lineStorage?, attributes]

theorem storageFrom_map_trimEnd (ls : List (List Char)) :
    storageFrom name number (above.map trimEnd) (ls.map trimEnd) =
      storageFrom name number above ls := by
  induction ls generalizing number above with
  | nil => rfl
  | cons line ls ih =>
    rw [List.map_cons, storageFrom, storageFrom, lineStorage?_trimEnd, lineStorage?_map_trimEnd,
      ← List.map_cons, ih]

theorem numberedFrom_map_trimEnd (ls : List (List Char)) :
    numberedFrom number (ls.map trimEnd) = numberedFrom number ls := by
  induction ls generalizing number with
  | nil => rfl
  | cons line ls ih =>
    rw [List.map_cons, numberedFrom, numberedFrom, map_identifiers_eq, map_identifiers_eq,
      spellings_trimEnd, ih]

end Lines

/-- A name is given its storage by the lines without the blanks at their ends. -/
theorem storage?_eq_trimmed (text name : String) :
    storage? text name = storageFrom name 1 [] (trimmedLines text) :=
  (storageFrom_map_trimEnd name 1 [] (lines text)).symm

/-- The words of a text are those of the lines without the blanks at their ends. -/
theorem firstLines_eq_trimmed (text : String) :
    firstLines text = NameMap.ofListFirst (numberedFrom 1 (trimmedLines text)) := by
  rw [trimmedLines, numberedFrom_map_trimEnd]
  rfl

end HeaderBindings.Artifact
