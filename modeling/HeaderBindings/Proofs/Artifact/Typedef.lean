import HeaderBindings.Proofs.Artifact.FirstMention
import HeaderBindings.Proofs.IntegerType

/-!
# Type definitions

A line that starts with `typedef` and ends with a name gives the name the type that the last word
before the name stands for, whatever the other words of the line are
(`typedef_is_unsigned_iff`). Types that are spelled in several words are therefore read as their
last word, so a definition of an unsigned type can give signed storage
(`unsigned_typedef_is_read_as_signed`).
-/

namespace HeaderBindings

open HeaderBindings.Artifact HeaderBindings.Text

/-- Whether the words of a line are `typedef`, others and a name that stands nowhere else on the
line. -/
structure TypedefLine (line : List Char) (name : String) (between : List String) : Prop where
  words : spellings [] line = "typedef" :: (between ++ [name])
  only : name ∉ "typedef" :: between

/-- Whether a type definition is read as a word: the last one before the name, or the one that an
attribute names if the last one is `enum`. -/
def TypedefReadAs (above : List (List Char)) (between : List String) (word : String) : Prop :=
  between.getLast? = some word ∨ between.getLast? = some "enum" ∧
    (attributeWord? ("typedef" :: between) <|> typeAbove? above.reverse) = some word

/-- The type that a mention gives is a word of the text. -/
theorem MentionGives.isIdentifier {above : List (List Char)} {front rest : List Char}
    {type : String} (gives : MentionGives above front rest type) : IsIdentifier type := by
  cases gives with
  | ascribed keyword colon next => exact isIdentifier_of_mem_spellings (List.mem_of_head? next)
  | attributed keyword untyped nearest =>
    rw [Option.orElse_eq_orElse, Option.orElse_eq_or, Option.or_eq_some_iff] at nearest
    rcases nearest with own | ⟨-, outer⟩
    · exact isIdentifier_of_mem_spellings (mem_of_attributeWord? own)
    · obtain ⟨line, -, named⟩ := List.exists_of_findSome?_eq_some outer
      exact isIdentifier_of_mem_spellings (mem_of_attributeWord? named)
  | synonym keyword equals first =>
    exact isIdentifier_of_mem_spellings (List.mem_of_find?_eq_some first)
  | wrapper keyword bracket field =>
    rcases field with direct | ⟨others, visible⟩
    · exact isIdentifier_of_mem_spellings (List.mem_of_head? direct)
    · have member : type ∈ spellings [] rest := by simp [visible]
      exact isIdentifier_of_mem_spellings member
  | typedef keyword last previous =>
    exact isIdentifier_of_mem_spellings (List.mem_of_getLast? previous)

theorem FirstMentionGives.isIdentifier {name type : String} {above : List (List Char)}
    {line : List Char} (gives : FirstMentionGives name above line type) : IsIdentifier type := by
  obtain ⟨-, front, rest, -, given⟩ := gives
  exact given.isIdentifier

/-- The storage that is found is the one of the line that it is reported on. -/
theorem lineStorage?_of_reported {text name : String} {above below : List (List Char)}
    {line : List Char} {s : Storage} (split : lines text = above ++ line :: below)
    (found : storage? text name = some s) (reported : s.line = above.length + 1) :
    lineStorage? name s.line above.reverse line = some s := by
  obtain ⟨far, here, near, parts, -, stored⟩ :=
    (storageFrom_eq_some_iff name 1 [] (lines text) s).1 found
  have place := ((lineStorage?_eq_some_iff _ _ _ _ _).1 stored).2.2
  have same : above.length = far.length := by omega
  obtain ⟨rfl, tails⟩ := List.append_inj (split.symm.trans parts) same
  obtain ⟨rfl, -⟩ := List.cons.inj tails
  rwa [← place, List.append_nil] at stored

/-- The words around the name of a type definition give it the type that the definition is read
as. -/
theorem TypedefLine.readAs {above : List (List Char)} {line : List Char} {name type : String}
    {between : List String} (defined : TypedefLine line name between)
    (gives : FirstMentionGives name above.reverse line type) :
    TypedefReadAs above between type := by
  obtain ⟨integer, front, rest, mention, gives⟩ := gives
  have words := mention.spellings_eq mention.identifier
  rw [defined.words, ← List.cons_append] at words
  obtain ⟨before, -, nothing⟩ :=
    (List.append_cons_inj_of_notMem defined.only List.not_mem_nil).1 words
  -- The word `typedef` itself is neither a type nor the keyword of an enum.
  have last : ∀ word, (spellings [] front).getLast? = some word → word ≠ "typedef" →
      between.getLast? = some word := by
    intro word final different
    rw [← before, List.getLast?_cons] at final
    cases inner : between.getLast? with
    | none =>
      rw [inner] at final
      exact absurd (Option.some.inj final).symm different
    | some other =>
      rw [inner] at final
      exact final
  cases gives with
  | ascribed keyword colon next =>
    rw [← nothing] at next
    cases next
  | attributed keyword untyped nearest =>
    rw [← before] at nearest
    exact .inr ⟨last "enum" keyword (by decide), nearest⟩
  | synonym keyword equals first =>
    rw [← nothing] at first
    cases first
  | wrapper keyword bracket field =>
    rw [← nothing] at field
    rcases field with none | ⟨others, none⟩ <;> cases none
  | typedef keyword behind previous =>
    have different : type ≠ "typedef" := by
      rintro rfl
      exact absurd integer (by decide)
    exact .inl (last type previous different)

/-- If the storage of a name is reported on the line of a type definition, it is read as the last
word before the name, or as an attribute if this word is `enum`; it is unsigned exactly if the word
stands for an unsigned type. The other words, `unsigned` among them, do not matter. -/
theorem typedef_is_unsigned_iff {text name : String} {above below : List (List Char)}
    {line : List Char} {between : List String} {s : Storage}
    (split : lines text = above ++ line :: below) (defined : TypedefLine line name between)
    (found : storage? text name = some s) (reported : s.line = above.length + 1) :
    TypedefReadAs above between s.spelling ∧
      (s.integerType.signed = false ↔ s.spelling ∈ IntegerType.unsignedWords) := by
  have stored := lineStorage?_of_reported split found reported
  obtain ⟨gives, known, -⟩ := (lineStorage?_eq_some_iff _ _ _ _ _).1 stored
  have visible : ∀ c ∈ s.spelling.toList, isBlank c = false := fun c member =>
    isBlank_of_isWordChar (gives.isIdentifier.1 c member)
  exact ⟨defined.readAs gives, (IntegerType.mem_unsignedWords_iff visible known).symm⟩

/-- The last word decides, with and without `unsigned` before it. -/
theorem typedef_is_unsigned_samples :
    let header := "typedef volatile uint16_t Mask;\ntypedef unsigned long Bits;"
    (∃ s, storage? header "Mask" = some s ∧ s.integerType.signed = false) ∧
      ∃ s, storage? header "Bits" = some s ∧ s.integerType.signed ≠ false := by
  intro header
  let mask := "typedef volatile uint16_t Mask;".toList
  let bits := "typedef unsigned long Bits;".toList
  have both : lines header = [mask, bits] := by decide
  have maskLine : TypedefLine mask "Mask" ["volatile", "uint16_t"] := ⟨by decide, by decide⟩
  have bitsLine : TypedefLine bits "Bits" ["unsigned", "long"] := ⟨by decide, by decide⟩
  have maskFound : storage? header "Mask" = some ⟨⟨.w16, false⟩, "uint16_t", 1⟩ := by decide
  have bitsFound : storage? header "Bits" = some ⟨⟨.w64, true⟩, "long", 2⟩ := by decide
  have first : lines header = [] ++ mask :: [bits] := both
  have second : lines header = [mask] ++ bits :: [] := both
  have maskReading := typedef_is_unsigned_iff first maskLine maskFound rfl
  have bitsReading := typedef_is_unsigned_iff second bitsLine bitsFound rfl
  exact ⟨⟨_, maskFound, maskReading.2.2 (by decide)⟩,
    ⟨_, bitsFound, fun unsigned => absurd (bitsReading.2.1 unsigned) (by decide)⟩⟩

/-- A type definition with the word `unsigned` can give signed storage. -/
theorem unsigned_typedef_is_read_as_signed :
    let text := "typedef unsigned int Flags;"
    lines text = [] ++ text.toList :: [] ∧
      TypedefLine text.toList "Flags" ["unsigned", "int"] ∧ "unsigned" ∈ ["unsigned", "int"] ∧
      storage? text "Flags" = some ⟨⟨.w32, true⟩, "int", 1⟩ := by
  intro text
  exact ⟨by decide, ⟨by decide, by decide⟩, by decide, by decide⟩

end HeaderBindings
