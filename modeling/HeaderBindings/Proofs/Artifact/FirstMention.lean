import HeaderBindings.Proofs.Artifact.Place
import HeaderBindings.Proofs.Artifact.Recognition

/-!
# The mention that decides

Of all mentions of a name on a line only the first one is looked at, and of all lines the first one
decides whose first mention gives the name a type. Which types a mention can give is told here by
the words around it (`MentionGives`), and the search through a text by the first mentions on its
lines (`lineStorage?_eq_some_iff`, `storageFrom_eq_some_iff`).

So a type can be declared for a name and still not be found: an earlier mention of the name on the
same line hides the declaration (`synonym_is_found_iff`, `synonym_behind_mention_is_hidden`).
-/

namespace HeaderBindings

open HeaderBindings.Artifact HeaderBindings.Text

/-- Whether the words around a mention of a name give the name a type. The lines above are held
with the nearest first. -/
inductive MentionGives (above : List (List Char)) (front rest : List Char) (type : String) : Prop
  /-- A type behind the name of an enum: `enum Name : byte`. -/
  | ascribed (keyword : (spellings [] front).getLast? = some "enum")
      (colon : continuesWith ':' rest = true) (next : (spellings [] rest).head? = some type)
  /-- An attribute before an enum, on its line or else on a line above within reach. -/
  | attributed (keyword : (spellings [] front).getLast? = some "enum")
      (untyped : continuesWith ':' rest = false)
      (nearest : (attributeWord? (spellings [] front) <|> typeAbove? above) = some type)
  /-- Another name for a type: `type Name = u8`. -/
  | synonym (keyword : (spellings [] front).getLast? = some "type")
      (equals : continuesWith '=' rest = true)
      (first : (spellings [] rest).find? isIntegerWord = some type)
  /-- A structure with one field: `struct Name(u8)` or `struct Name(pub u8)`. -/
  | wrapper (keyword : (spellings [] front).getLast? = some "struct")
      (bracket : continuesWith '(' rest = true)
      (field : (spellings [] rest).head? = some type ∨
        ∃ others, spellings [] rest = "pub" :: type :: others)
  /-- A type definition: `typedef uint8_t Name`. -/
  | typedef (keyword : (spellings [] front).head? = some "typedef")
      (last : spellings [] rest = []) (previous : (spellings [] front).getLast? = some type)

/-- Whether the first mention of a name on a line stands between two parts of the line. -/
structure FirstMention (name : String) (line front rest : List Char) : Prop
    extends StandsBetween line front name.toList rest where
  identifier : IsIdentifier name
  first : name ∉ spellings [] front

/-- Whether the first mention of a name on a line gives the name an integer type. -/
def FirstMentionGives (name : String) (above : List (List Char)) (line : List Char)
    (type : String) : Prop :=
  isIntegerWord type = true ∧
    ∃ front rest, FirstMention name line front rest ∧ MentionGives above front rest type

namespace Artifact

section Forms

variable {above : List (List Char)} {front : List Char} {before later : List Identifier}
  {found : Identifier} {type : String}

/-- Without the keyword of a form next to the name, the line can only be a type definition. -/
theorem storageWord?_of_other {previous : String}
    (last : (before.map (·.text)).getLast? = some previous) (notEnum : previous ≠ "enum")
    (notType : ¬ (previous = "type" ∧ continuesWith '=' found.after = true))
    (notStruct : ¬ (previous = "struct" ∧ continuesWith '(' found.after = true)) :
    storageWord? above before found later =
      if (before.map (·.text)).head? = some "typedef" ∧ later.map (·.text) = [] then some previous
      else none := by
  simp only [storageWord?, getLast?_before last, if_neg notEnum, if_neg notType, if_neg notStruct,
    List.head?_map, List.map_eq_nil_iff]

/-- The word that names the storage of a structure is the type of its field. -/
theorem wrapper_field_of_storageWord?
    (following : later.map (·.text) = spellings [] found.after)
    (last : (before.map (·.text)).getLast? = some "struct")
    (bracket : continuesWith '(' found.after = true)
    (named : storageWord? above before found later = some type) :
    (spellings [] found.after).head? = some type ∨
      ∃ others, spellings [] found.after = "pub" :: type :: others := by
  by_cases visible : (spellings [] found.after).head? = some "pub"
  · obtain ⟨words, split⟩ := List.head?_eq_some_iff.1 visible
    rw [storageWord?_of_wrapper last bracket (.inr (following.trans split))] at named
    obtain ⟨others, rfl⟩ := List.head?_eq_some_iff.1 named
    exact .inr ⟨others, split⟩
  · rw [storageWord?_of_wrapper last bracket (.inl ⟨following, visible⟩)] at named
    exact .inl named

section Around

variable (earlier : before.map (·.text) = spellings [] front)
  (following : later.map (·.text) = spellings [] found.after)

include earlier following

/-- A word that names the storage is given by one of the forms. -/
theorem mentionGives_of_storageWord? (named : storageWord? above before found later = some type) :
    MentionGives above front found.after type := by
  cases last : (spellings [] front).getLast? with
  | none =>
    rw [← earlier, List.getLast?_map] at last
    rw [storageWord?, last] at named
    cases named
  | some previous =>
    have final : (before.map (·.text)).getLast? = some previous := earlier ▸ last
    -- The forms are told apart by the word before the name and the character behind it.
    by_cases isEnum : previous = "enum"
    · subst isEnum
      cases colon : continuesWith ':' found.after with
      | true =>
        rw [storageWord?_of_ascribed final colon, following] at named
        exact .ascribed last colon named
      | false =>
        rw [storageWord?_of_enum final colon, earlier] at named
        exact .attributed last colon named
    by_cases isSynonym : previous = "type" ∧ continuesWith '=' found.after = true
    · obtain ⟨rfl, equals⟩ := isSynonym
      rw [storageWord?_of_synonym final equals, following] at named
      exact .synonym last equals named
    by_cases isWrapper : previous = "struct" ∧ continuesWith '(' found.after = true
    · obtain ⟨rfl, bracket⟩ := isWrapper
      exact .wrapper last bracket (wrapper_field_of_storageWord? following final bracket named)
    · rw [storageWord?_of_other final isEnum isSynonym isWrapper, earlier, following,
        Option.ite_none_right_eq_some] at named
      obtain ⟨⟨keyword, nothing⟩, same⟩ := named
      exact .typedef keyword nothing (last.trans same)

/-- An integer type that is given by a form names the storage. -/
theorem storageWord?_of_mentionGives (integer : isIntegerWord type = true)
    (gives : MentionGives above front found.after type) :
    storageWord? above before found later = some type := by
  cases gives with
  | ascribed keyword colon next =>
    rw [storageWord?_of_ascribed (earlier ▸ keyword) colon, following, next]
  | attributed keyword untyped nearest =>
    rw [storageWord?_of_enum (earlier ▸ keyword) untyped, earlier, nearest]
  | synonym keyword equals first =>
    rw [storageWord?_of_synonym (earlier ▸ keyword) equals, following, first]
  | wrapper keyword bracket field =>
    rcases field with direct | ⟨others, visible⟩
    · have hidden : (spellings [] found.after).head? ≠ some "pub" := by
        rw [direct]
        rintro ⟨⟩
        exact absurd integer (by decide)
      rw [storageWord?_of_wrapper (earlier ▸ keyword) bracket (.inl ⟨following, hidden⟩), direct]
    · rw [storageWord?_of_wrapper (earlier ▸ keyword) bracket (.inr (following.trans visible))]
      rfl
  | typedef keyword nothing previous =>
    exact storageWord?_of_typedef (earlier ▸ previous) (not_mem_storageWords integer)
      (earlier ▸ keyword) (following.trans nothing)

end Around

end Forms

section Mentions

variable {name : String} {line : List Char}

/-- A mention in front of another one is a mention on the line: a separator stands between them. -/
theorem StandsBetween.widen {front rest before gap word other : List Char}
    (outer : StandsBetween line front other rest) (inner : StandsBetween front before word gap)
    (letters : ∀ c ∈ word, isWordChar c = true) (nonempty : word ≠ []) :
    StandsBetween line before word (gap ++ (other ++ rest)) := by
  refine ⟨?_, inner.starts, fun c head => ?_⟩
  · rw [outer.split, inner.split, List.append_assoc, List.append_assoc]
  · cases gap with
    | nil =>
      have last : front.getLast? = some (word.getLast nonempty) := by
        rw [inner.split, List.append_nil, List.getLast?_append,
          List.getLast?_eq_some_getLast nonempty, Option.some_or]
      have inside := letters _ (List.getLast_mem nonempty)
      rw [outer.starts _ last] at inside
      cases inside
    | cons d gap => exact inner.ends c head

/-- The words of a line are those before a mention, the mentioned one and those behind it. -/
theorem StandsBetween.spellings_eq {line front rest : List Char} {word : String}
    (stands : StandsBetween line front word.toList rest) (identifier : IsIdentifier word) :
    spellings [] line = spellings [] front ++ word :: spellings [] rest := by
  obtain ⟨before, start, later, same, earlier, following⟩ :=
    exists_identifiers_append identifier stands.starts stands.ends
  rw [stands.split, ← map_text_identifiers, same, List.map_append, List.map_cons, earlier,
    following]

/-- A line that mentions a name has a first mention of it. -/
theorem exists_firstMention (mentioned : name ∈ spellings [] line) :
    ∃ front rest, FirstMention name line front rest := by
  have identifier := isIdentifier_of_mem_spellings mentioned
  rw [← mentions_line_iff, ← contains_firstLines_iff, NameMap.contains_iff,
    NameMap.mem_names_iff] at mentioned
  obtain ⟨number, found⟩ := mentioned
  obtain ⟨front, ⟨⟨rest, stands⟩, least⟩, -⟩ :=
    (find?_firstLines_of_identifier identifier _ number).1 found
  rw [String.toList_ofList] at stands least
  refine ⟨front, rest, stands, identifier, fun inside => ?_⟩
  obtain ⟨-, before, gap, split, starts, ends⟩ :=
    (mem_spellings_iff (List.forall_mem_nil _) front name).1 inside
  have earlier : StandsBetween front before name.toList gap := ⟨split, starts, ends⟩
  have bound := least _ _ (stands.widen earlier identifier.1 identifier.ne_nil)
  have longer := congrArg List.length earlier.split
  rw [List.length_append, List.length_append] at longer
  have letters := List.length_pos_iff.2 identifier.ne_nil
  omega

/-- A line gives a name what the first mention of the name gives it. -/
theorem lineStorage?_eq_some_iff (name : String) (number : Nat) (above : List (List Char))
    (line : List Char) (s : Storage) : lineStorage? name number above line = some s ↔
      FirstMentionGives name above line s.spelling ∧
        IntegerType.ofBindingName? s.spelling = some s.integerType ∧ s.line = number := by
  constructor
  · intro found
    by_cases mentioned : name ∈ spellings [] line
    · obtain ⟨front, rest, mention⟩ := exists_firstMention mentioned
      obtain ⟨before, start, later, earlier, following, storage⟩ :=
        exists_lineStorage?_eq mention.identifier mention.starts mention.ends mention.first
      rw [mention.split, storage, Option.bind_eq_some_iff] at found
      obtain ⟨type, named, known⟩ := found
      obtain ⟨t, stored, rfl⟩ := Option.map_eq_some_iff.1 known
      have integer : isIntegerWord type = true := by rw [isIntegerWord, stored]; rfl
      have gives := mentionGives_of_storageWord? earlier following named
      exact ⟨⟨integer, front, rest, mention, gives⟩, stored, rfl⟩
    · rw [lineStorage?_of_absent mentioned] at found
      cases found
  · rintro ⟨⟨integer, front, rest, mention, gives⟩, stored, rfl⟩
    obtain ⟨before, start, later, earlier, following, storage⟩ :=
      exists_lineStorage?_eq mention.identifier mention.starts mention.ends mention.first
    have named : storageWord? above before ⟨start, name, rest⟩ later = some s.spelling :=
      storageWord?_of_mentionGives earlier following integer gives
    rw [mention.split, storage, named, Option.bind_some, stored]
    rfl

/-- A line gives a name no storage exactly if the first mention of the name gives no type. -/
theorem lineStorage?_eq_none_iff (name : String) (number : Nat) (above : List (List Char))
    (line : List Char) : lineStorage? name number above line = none ↔
      ∀ type, ¬ FirstMentionGives name above line type := by
  rw [Option.eq_none_iff_forall_ne_some]
  constructor
  · intro nothing type gives
    obtain ⟨t, stored⟩ := Option.isSome_iff_exists.1 gives.1
    exact nothing ⟨t, type, number⟩
      ((lineStorage?_eq_some_iff _ _ _ _ _).2 ⟨gives, stored, rfl⟩)
  · intro silent s found
    exact silent s.spelling ((lineStorage?_eq_some_iff _ _ _ _ _).1 found).1

end Mentions

section Search

variable (name : String) (number : Nat) (above ls : List (List Char))

/-- The storage that lines give a name is that of the first line that gives any. -/
theorem storageFrom_eq_some_iff (s : Storage) : storageFrom name number above ls = some s ↔
    ∃ far line near, ls = far ++ line :: near ∧ storageFrom name number above far = none ∧
      lineStorage? name (number + far.length) (far.reverse ++ above) line = some s := by
  constructor
  · intro found
    induction ls generalizing number above with
    | nil => cases found
    | cons line ls ih =>
      rw [storageFrom] at found
      cases here : lineStorage? name number above line with
      | some t =>
        rw [here] at found
        exact ⟨[], line, ls, rfl, rfl, here.trans found⟩
      | none =>
        rw [here] at found
        obtain ⟨far, next, near, rfl, nothing, later⟩ := ih (number + 1) (line :: above) found
        refine ⟨line :: far, next, near, rfl, ?_, ?_⟩
        · rw [storageFrom, here]
          exact nothing
        · rw [List.length_cons, List.reverse_cons, List.append_assoc, List.singleton_append,
            ← Nat.add_assoc, Nat.add_right_comm]
          exact later
  · rintro ⟨far, line, near, rfl, nothing, here⟩
    rw [storageFrom_append, nothing, Option.none_or, storageFrom, here]

/-- Lines give a name no storage exactly if no first mention of the name on them gives a type. -/
theorem storageFrom_eq_none_iff : storageFrom name number above ls = none ↔
    ∀ far line near, ls = far ++ line :: near →
      ∀ type, ¬ FirstMentionGives name (far.reverse ++ above) line type := by
  constructor
  · rintro nothing far line near rfl
    rw [storageFrom_append, Option.or_eq_none_iff, storageFrom] at nothing
    rw [← lineStorage?_eq_none_iff name (number + far.length)]
    cases here : lineStorage? name (number + far.length) (far.reverse ++ above) line with
    | none => rfl
    | some s =>
      rw [here] at nothing
      exact absurd nothing.2 (Option.some_ne_none s)
  · intro silent
    rw [Option.eq_none_iff_forall_ne_some]
    intro s found
    obtain ⟨far, line, near, split, -, here⟩ :=
      (storageFrom_eq_some_iff name number above ls s).1 found
    exact silent far line near split s.spelling ((lineStorage?_eq_some_iff _ _ _ _ _).1 here).1

/-- The storage that lines give a name is on one of them. -/
theorem line_of_storageFrom {s : Storage} (found : storageFrom name number above ls = some s) :
    number ≤ s.line ∧ s.line < number + ls.length := by
  obtain ⟨far, line, near, rfl, -, here⟩ := (storageFrom_eq_some_iff name number above ls s).1 found
  have place := ((lineStorage?_eq_some_iff _ _ _ _ _).1 here).2.2
  rw [List.length_append, List.length_cons]
  omega

end Search

/-- A name is given storage by one of the first lines exactly if a first mention on these lines
gives it a type. -/
theorem storage?_within_iff {text : String} {above below : List (List Char)}
    (split : lines text = above ++ below) (name : String) :
    (∃ s, storage? text name = some s ∧ s.line ≤ above.length) ↔
      ∃ far line near type, above = far ++ line :: near ∧
        FirstMentionGives name far.reverse line type := by
  have within : (∃ s, storage? text name = some s ∧ s.line ≤ above.length) ↔
      storageFrom name 1 [] above ≠ none := by
    rw [storage?, split, storageFrom_append]
    cases found : storageFrom name 1 [] above with
    | some s =>
      have place := (line_of_storageFrom name 1 [] above found).2
      exact iff_of_true ⟨s, Option.some_or, by omega⟩ (Option.some_ne_none s)
    | none =>
      refine iff_of_false ?_ (fun other => other rfl)
      rintro ⟨s, later, place⟩
      rw [Option.none_or] at later
      have bound := (line_of_storageFrom _ _ _ _ later).1
      omega
  rw [within, ne_eq, storageFrom_eq_none_iff]
  simp only [List.append_nil, not_forall, not_not]
  constructor
  · rintro ⟨far, line, near, parts, type, gives⟩
    exact ⟨far, line, near, type, parts, gives⟩
  · rintro ⟨far, line, near, type, parts, gives⟩
    exact ⟨far, line, near, parts, type, gives⟩

end Artifact

/-- Whether a line declares a name as another name for an integer type, behind the given part of the
line: `type Name = u8`. -/
structure SynonymOn (line : List Char) (name : String) (front rest : List Char) : Prop
    extends StandsBetween line front name.toList rest where
  identifier : IsIdentifier name
  keyword : (spellings [] front).getLast? = some "type"
  equals : continuesWith '=' rest = true
  typed : ∃ word ∈ spellings [] rest, isIntegerWord word = true

/-- Whether a declaration of a name behind a part of a line is hidden: the name stands in this part
already, and no line up to this one gives the name a type by its first mention. -/
def Hidden (name : String) (above : List (List Char)) (line front : List Char) : Prop :=
  name ∈ spellings [] front ∧ ∀ far here near, above ++ [line] = far ++ here :: near →
    ∀ type, ¬ FirstMentionGives name far.reverse here type

/-- A declaration that is the first mention of its line gives the type that it declares. -/
theorem SynonymOn.firstMentionGives {line front rest : List Char} {name : String}
    (declared : SynonymOn line name front rest) (first : name ∉ spellings [] front)
    (above : List (List Char)) : ∃ type, FirstMentionGives name above line type := by
  obtain ⟨word, member, integer⟩ := declared.typed
  cases found : (spellings [] rest).find? isIntegerWord with
  | none => exact absurd integer (List.find?_eq_none.1 found word member)
  | some type =>
    exact ⟨type, List.find?_some found, front, rest,
      ⟨declared.toStandsBetween, declared.identifier, first⟩,
      .synonym declared.keyword declared.equals found⟩

/-- Where a line declares another name for a type, storage is found on this line or before it unless
the declaration is hidden; so it is found if the line does not have the name before. -/
theorem synonym_is_found_iff {text name : String} {above below : List (List Char)}
    {line front rest : List Char} (split : lines text = above ++ line :: below)
    (declared : SynonymOn line name front rest) :
    (∃ s, storage? text name = some s ∧ s.line ≤ above.length + 1) ↔
      ¬ Hidden name above line front := by
  have parts : lines text = (above ++ [line]) ++ below := by
    rw [split, List.append_assoc, List.singleton_append]
  have within := storage?_within_iff parts name
  rw [List.length_append, List.length_singleton] at within
  rw [within]
  constructor
  · rintro ⟨far, here, near, type, place, gives⟩ ⟨-, silent⟩
    exact silent far here near place type gives
  · intro visible
    by_cases first : name ∈ spellings [] front
    · by_contra nothing
      exact visible ⟨first, fun far here near place type gives =>
        nothing ⟨far, here, near, type, place, gives⟩⟩
    · obtain ⟨type, gives⟩ := declared.firstMentionGives first above.reverse
      exact ⟨above, line, [], type, rfl, gives⟩

/-- A mention on an earlier line hides nothing. -/
theorem synonym_is_found_below_mention :
    let text := "use Color;\npub type Color = u8;"
    ∃ s, storage? text "Color" = some s ∧ s.line ≤ 2 := by
  intro text
  have declared : SynonymOn "pub type Color = u8;".toList "Color" "pub type ".toList
      " = u8;".toList := by
    refine ⟨⟨by decide, ?_, ?_⟩, by decide, by decide, by decide, "u8", by decide, by decide⟩
    · exact isWordChar_eq_false_of_any (by decide)
    · exact isWordChar_eq_false_of_any (by decide)
  have split : lines text = ["use Color;".toList] ++ "pub type Color = u8;".toList :: [] := by
    decide
  exact (synonym_is_found_iff split declared).2 fun hidden => absurd hidden.1 (by decide)

/-- A mention before a declaration on its line hides the declaration. -/
theorem synonym_behind_mention_is_hidden :
    let text := "pub fn paint(c: Color); pub type Color = u8;"
    lines text = [] ++ text.toList :: [] ∧
      SynonymOn text.toList "Color" "pub fn paint(c: Color); pub type ".toList " = u8;".toList ∧
      storage? text "Color" = none := by
  intro text
  refine ⟨by decide, ⟨⟨by decide, ?_, ?_⟩, by decide, by decide, by decide, ?_⟩, by decide⟩
  · exact isWordChar_eq_false_of_any (by decide)
  · exact isWordChar_eq_false_of_any (by decide)
  · exact ⟨"u8", by decide, by decide⟩

end HeaderBindings
