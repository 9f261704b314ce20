import HeaderBindings.Proofs.Artifact.Recognition
import HeaderBindings.Verification

/-!
# The forms that give an enum its storage

An artifact can give an enum its storage in five forms (`BindingForm`). Each of them is recognized
for all names and for every word that stands for an integer type, whatever text stands on the lines
before and behind (`binding_form_is_recognized`): the storage found is the word of the form, on the
line of the name, and the values that do not fit it are reported in their order.
-/

namespace HeaderBindings

open HeaderBindings.Artifact HeaderBindings.Text

/-- A form in which an artifact gives an enum its storage. -/
inductive BindingForm where
  /-- An attribute on a line above the enum, with further lines between them: `#[repr(u8)]` and
  `pub enum Name`. -/
  | attributed (between : List String)
  /-- A type behind the name of the enum: `enum Name : byte`. -/
  | ascribed
  /-- Another name for a type that may have a path: `pub type Name = ::std::os::raw::c_short;`. -/
  | synonym (rooted : Bool) (path : List String)
  /-- A structure with one field: `pub struct Name(pub u8);` or `pub struct Name(u8);`. -/
  | wrapper (visible : Bool)
  /-- A type definition: `typedef uint8_t Name;`. -/
  | typedef

namespace BindingForm

/-- A path in front of a type. -/
def pathText (rooted : Bool) (path : List String) : String :=
  (if rooted then "::" else "") ++ String.join (path.map (· ++ "::"))

/-- The lines above the one with the name. -/
def above (type : String) : BindingForm → List String
  | attributed between => ("#[repr(" ++ type ++ ")]") :: between
  | _ => []

/-- What stands before the name on its line. -/
def front (type : String) : BindingForm → String
  | attributed _ => "pub enum "
  | ascribed => "enum "
  | synonym _ _ => "pub type "
  | wrapper _ => "pub struct "
  | typedef => "typedef " ++ type ++ " "

/-- What stands behind the name on its line. -/
def rest (type : String) : BindingForm → String
  | attributed _ => " \x7b"
  | ascribed => " : " ++ type ++ " \x7b"
  | synonym rooted path => " = " ++ pathText rooted path ++ type ++ ";"
  | wrapper visible => "(" ++ (if visible then "pub " else "") ++ type ++ ");"
  | typedef => ";"

/-- The line with the name. -/
def line (name type : String) (form : BindingForm) : String :=
  form.front type ++ name ++ form.rest type

/-- The text of a form. -/
def text (name type : String) (form : BindingForm) : String :=
  joinLines (form.above type) ++ form.line name type

/-- Whether the parts of a form are as they have to be for a name: at most two lines stand between
an attribute and its enum, with neither the name nor another attribute, and a path has no integer
type in front of its last part. -/
def Fits (name : String) : BindingForm → Prop
  | attributed between => between.length ≤ 2 ∧ ∀ line ∈ between,
      '\n' ∉ line.toList ∧ ¬ Mentions line "repr" ∧ ¬ Mentions line name
  | synonym _ path => ∀ part ∈ path, IsIdentifier part ∧ isIntegerWord part = false
  | _ => True

/-- The words that forms are made of. -/
def keywords : List String :=
  ["pub", "enum", "type", "struct", "typedef", "repr"]

section Words

variable {type : String} (word : IsIdentifier type) (form : BindingForm)

/-- The words before the name on its line. -/
def wordsBefore (type : String) : BindingForm → List String
  | attributed _ => ["pub", "enum"]
  | ascribed => ["enum"]
  | synonym _ _ => ["pub", "type"]
  | wrapper _ => ["pub", "struct"]
  | typedef => ["typedef", type]

/-- The words behind the name on its line. -/
def wordsBehind (type : String) : BindingForm → List String
  | attributed _ => []
  | ascribed => [type]
  | synonym _ path => path ++ [type]
  | wrapper visible => if visible then ["pub", type] else [type]
  | typedef => []

theorem isWordChar_punctuation : isWordChar ' ' = false ∧ isWordChar ':' = false ∧
    isWordChar '=' = false ∧ isWordChar '(' = false ∧ isWordChar ')' = false ∧
    isWordChar ';' = false := by
  decide

theorem spellings_pathText (rooted : Bool) {path : List String}
    (identifiers : ∀ part ∈ path, IsIdentifier part) (cs : List Char) :
    spellings [] ((pathText rooted path).toList ++ cs) = path ++ spellings [] cs := by
  obtain ⟨-, colon, -⟩ := isWordChar_punctuation
  have parts : spellings [] ((String.join (path.map (· ++ "::"))).toList ++ cs) =
      path ++ spellings [] cs := by
    induction path with
    | nil => simp
    | cons part rest ih =>
      obtain ⟨first, later⟩ := List.forall_mem_cons.1 identifiers
      have inner := ih later
      simp only [List.map_cons, String.join_cons, String.toList_append, List.append_assoc] at inner ⊢
      rw [show "::".toList = [':', ':'] from rfl, List.cons_append, first.spellings_append colon,
        List.singleton_append, spellings_separator colon, inner, List.cons_append]
  cases rooted with
  | false => simpa [pathText] using parts
  | true => simpa [pathText, spellings_separator colon] using parts

include word

theorem spellings_front : spellings [] (form.front type).toList = form.wordsBefore type := by
  obtain ⟨space, -⟩ := isWordChar_punctuation
  cases form with
  | typedef =>
    have first : IsIdentifier "typedef" := by decide
    have text : (typedef.front type).toList = "typedef".toList ++ ' ' :: (type.toList ++ [' ']) := by
      simp [front]
    rw [text, first.spellings_append space, word.spellings_append space]
    rfl
  | _ =>
    simp only [front, wordsBefore]
    decide

theorem spellings_rest {name : String} (fits : form.Fits name) :
    spellings [] (form.rest type).toList = form.wordsBehind type := by
  obtain ⟨space, colon, equals, opening, closing, semicolon⟩ := isWordChar_punctuation
  cases form with
  | attributed between =>
    simp only [rest, wordsBehind]
    decide
  | ascribed =>
    have text : (ascribed.rest type).toList = ' ' :: ':' :: ' ' :: (type.toList ++ ' ' :: ['{']) := by
      simp [rest]
    rw [text, spellings_separator space, spellings_separator colon, spellings_separator space,
      word.spellings_append space]
    rfl
  | synonym rooted path =>
    have parts := spellings_pathText rooted (fun part member => (fits part member).1)
      (type.toList ++ [';'])
    simp only [rest, wordsBehind, String.toList_append, List.append_assoc]
    rw [show " = ".toList = [' ', '=', ' '] from rfl, List.cons_append, List.cons_append,
      List.singleton_append, spellings_separator space, spellings_separator equals,
      spellings_separator space]
    rw [show ";".toList = [';'] from rfl, parts, word.spellings_append semicolon]
    rfl
  | wrapper visible =>
    have keyword : IsIdentifier "pub" := by decide
    have inner : spellings [] (type.toList ++ ')' :: [';']) = [type] := by
      rw [word.spellings_append closing]
      rfl
    cases visible with
    | false => simpa [rest, wordsBehind, spellings_separator opening] using inner
    | true =>
      have outer := keyword.spellings_append space (type.toList ++ ')' :: [';'])
      rw [inner] at outer
      simpa [rest, wordsBehind, spellings_separator opening] using outer
  | typedef =>
    simp only [rest, wordsBehind]
    decide

end Words

section Recognition

variable {name type : String} {form : BindingForm}

theorem isWordChar_getLast?_front (type : String) (form : BindingForm) :
    ∀ c ∈ (form.front type).toList.getLast?, isWordChar c = false := by
  have space : (form.front type).toList.getLast? = some ' ' := by
    cases form <;> simp [front, List.getLast?_cons]
  rw [space]
  exact fun c last => Option.some.inj last ▸ isWordChar_punctuation.1

theorem isWordChar_head?_rest (type : String) (form : BindingForm) :
    ∀ c ∈ (form.rest type).toList.head?, isWordChar c = false := by
  have first : (form.rest type).toList.head? = some ' ' ∨ (form.rest type).toList.head? = some '(' ∨
      (form.rest type).toList.head? = some ';' := by
    cases form <;> simp [rest]
  intro c head
  obtain ⟨space, -, -, opening, -, semicolon⟩ := isWordChar_punctuation
  rcases first with first | first | first <;> rw [first] at head <;> cases head <;> assumption

theorem not_mem_pathText (rooted : Bool) {path : List String}
    (identifiers : ∀ part ∈ path, IsIdentifier part) : '\n' ∉ (pathText rooted path).toList := by
  have colons : '\n' ∉ "::".toList := by decide
  rw [pathText, String.toList_append, List.mem_append, not_or]
  constructor
  · cases rooted <;> decide
  · rw [String.toList_join, List.mem_flatMap]
    rintro ⟨_, member, inside⟩
    obtain ⟨part, listed, rfl⟩ := List.mem_map.1 member
    rw [String.toList_append, List.mem_append] at inside
    exact inside.elim ((identifiers part listed).not_mem (by decide)) colons

theorem not_mem_line (identifier : IsIdentifier name) (word : IsIdentifier type)
    (fits : form.Fits name) : '\n' ∉ (form.line name type).toList := by
  have named : '\n' ∉ name.toList := identifier.not_mem (by decide)
  have typed : '\n' ∉ type.toList := word.not_mem (by decide)
  cases form with
  | synonym rooted path =>
    have parts := not_mem_pathText rooted fun part member => (fits part member).1
    simp [line, front, rest, named, typed, parts]
  | wrapper visible => cases visible <;> simp [line, front, rest, named, typed]
  | _ => simp [line, front, rest, named, typed]

theorem getLast?_line (name type : String) (form : BindingForm) :
    (form.line name type).toList.getLast? = some '{' ∨
      (form.line name type).toList.getLast? = some ';' := by
  cases form <;> simp [line, rest, List.getLast?_append, List.getLast?_cons]

/-- The words around the name of a form name its type, if an attribute above is still in reach. -/
theorem storageWord?_eq_type (integer : isIntegerWord type = true) (fits : form.Fits name)
    {above : List (List Char)}
    (reached : ∀ between, form = .attributed between → typeAbove? above = some type)
    {before later : List Identifier} (earlier : before.map (·.text) = form.wordsBefore type)
    (following : later.map (·.text) = form.wordsBehind type) {found : Identifier}
    (behind : found.after = (form.rest type).toList) :
    storageWord? above before found later = some type := by
  cases form with
  | attributed between =>
    have last : (before.map (·.text)).getLast? = some "enum" := by rw [earlier]; rfl
    have none : attributeWord? (before.map (·.text)) = none := by
      rw [earlier]
      exact attributeWord?_eq_none (by simp [wordsBefore])
    have colon : continuesWith ':' found.after = false := by
      rw [behind]
      simp [rest, continuesWith, trimStart, isBlank]
    rw [storageWord?_of_enum last colon, none, reached between rfl]
    rfl
  | ascribed =>
    have last : (before.map (·.text)).getLast? = some "enum" := by rw [earlier]; rfl
    have colon : continuesWith ':' found.after = true := by
      rw [behind]
      simp [rest, continuesWith, trimStart, isBlank]
    rw [storageWord?_of_ascribed last colon, following]
    rfl
  | synonym rooted path =>
    have last : (before.map (·.text)).getLast? = some "type" := by rw [earlier]; rfl
    have equals : continuesWith '=' found.after = true := by
      rw [behind]
      simp [rest, continuesWith, trimStart, isBlank]
    have others : path.find? isIntegerWord = none := by
      rw [List.find?_eq_none]
      exact fun part member => Bool.eq_false_iff.1 (fits part member).2
    rw [storageWord?_of_synonym last equals, following, wordsBehind, List.find?_append, others,
      Option.none_or, List.find?_singleton, if_pos integer]
  | wrapper visible =>
    have last : (before.map (·.text)).getLast? = some "struct" := by rw [earlier]; rfl
    have bracket : continuesWith '(' found.after = true := by
      rw [behind]
      simp [rest, continuesWith, trimStart, isBlank]
    have other : type ≠ "pub" := by
      rintro rfl
      exact absurd integer (by decide)
    have field : later.map (·.text) = [type] ∧ [type].head? ≠ some "pub" ∨
        later.map (·.text) = "pub" :: [type] := by
      cases visible with
      | false => exact .inl ⟨following, by simpa using other⟩
      | true => exact .inr following
    exact storageWord?_of_wrapper last bracket field
  | typedef =>
    have last : (before.map (·.text)).getLast? = some type := by rw [earlier]; rfl
    have first : (before.map (·.text)).head? = some "typedef" := by rw [earlier]; rfl
    exact storageWord?_of_typedef last (not_mem_storageWords integer) first following

theorem spellings_attribute (word : IsIdentifier type) :
    spellings [] (withoutReturn ("#[repr(" ++ type ++ ")]").toList) = ["repr", type] := by
  obtain ⟨-, -, -, opening, closing, -⟩ := isWordChar_punctuation
  have keyword : IsIdentifier "repr" := by decide
  have text : ("#[repr(" ++ type ++ ")]").toList =
      '#' :: '[' :: ("repr".toList ++ '(' :: (type.toList ++ ')' :: [']'])) := by
    simp
  have last : ("#[repr(" ++ type ++ ")]").toList.getLast? ≠ some '\r' := by
    simp [List.getLast?_append, List.getLast?_cons]
  rw [withoutReturn_of_ne last, text, spellings_separator (by decide),
    spellings_separator (by decide), keyword.spellings_append opening, word.spellings_append closing]
  rfl

theorem mem_spellings_withoutReturn_iff (line word : String) :
    word ∈ spellings [] (withoutReturn line.toList) ↔ Mentions line word := by
  rw [withoutReturn, spellings_dropReturn, List.reverse_reverse, mentions_iff_mem_spellings]

/-- The lines above the name of a form are lines of their own, and none of them has the name. -/
theorem above_absent (word : IsIdentifier type) (fits : form.Fits name) (different : name ≠ type)
    (other : name ∉ keywords) : (∀ line ∈ form.above type, '\n' ∉ line.toList) ∧
      ∀ line ∈ form.above type, name ∉ spellings [] (withoutReturn line.toList) := by
  cases form with
  | attributed between =>
    refine ⟨List.forall_mem_cons.2 ⟨?_, fun line member => (fits.2 line member).1⟩,
      List.forall_mem_cons.2 ⟨?_, fun line member => ?_⟩⟩
    · have typed : '\n' ∉ type.toList := word.not_mem (by decide)
      simp [typed]
    · rw [spellings_attribute word]
      have keyword : name ≠ "repr" := by
        rintro rfl
        exact other (by decide)
      simp [keyword, different]
    · rw [mem_spellings_withoutReturn_iff]
      exact (fits.2 line member).2.2
  | _ => exact ⟨List.forall_mem_nil _, List.forall_mem_nil _⟩

theorem not_mem_wordsBefore (different : name ≠ type) (other : name ∉ keywords) :
    name ∉ form.wordsBefore type := by
  simp only [keywords, List.mem_cons, List.not_mem_nil, or_false, not_or] at other
  cases form <;> simp [wordsBefore, different, other]

/-- The line of a form gives its name the type of the form, if an attribute above is in reach. -/
theorem lineStorage?_line {t : IntegerType} (identifier : IsIdentifier name)
    (word : IsIdentifier type) (known : IntegerType.ofBindingName? type = some t)
    (different : name ≠ type) (other : name ∉ keywords) (fits : form.Fits name)
    {above : List (List Char)}
    (reached : ∀ between, form = .attributed between → typeAbove? above = some type)
    (number : Nat) :
    lineStorage? name number above (form.line name type).toList = some ⟨t, type, number⟩ := by
  have absent : name ∉ spellings [] (form.front type).toList := by
    rw [spellings_front word]
    exact not_mem_wordsBefore different other
  obtain ⟨before, start, later, earlier, following, storage⟩ := exists_lineStorage?_eq identifier
    (isWordChar_getLast?_front type form) (isWordChar_head?_rest type form) absent
  rw [spellings_front word] at earlier
  rw [spellings_rest word form fits] at following
  have integer : isIntegerWord type = true := by rw [isIntegerWord, known]; rfl
  rw [line, String.toList_append, String.toList_append, List.append_assoc, storage,
    storageWord?_eq_type integer fits reached earlier following rfl, Option.bind_some, known]
  rfl

/-- The attribute of a form is within the reach of its enum, whatever stands above it. -/
theorem typeAbove?_above {between : List String} (word : IsIdentifier type)
    (integer : isIntegerWord type = true) (fits : (attributed between).Fits name)
    (others : List (List Char)) :
    typeAbove? ((((attributed between).above type).map fun line =>
      withoutReturn line.toList).reverse ++ others) = some type := by
  have near : (between.map fun line => withoutReturn line.toList).reverse.length < attributeReach := by
    have few := fits.1
    rw [List.length_reverse, List.length_map, attributeReach]
    omega
  have silent : ∀ line ∈ (between.map fun line => withoutReturn line.toList).reverse,
      attributeWord? (spellings [] line) = none := by
    intro line member
    obtain ⟨filler, listed, rfl⟩ := List.mem_map.1 (List.mem_reverse.1 member)
    apply attributeWord?_eq_none
    rw [mem_spellings_withoutReturn_iff]
    exact (fits.2 filler listed).2.1
  have named : attributeWord? (spellings [] (withoutReturn ("#[repr(" ++ type ++ ")]").toList)) =
      some type := by
    rw [spellings_attribute word]
    simp [attributeWord?, integer]
  rw [above, List.map_cons, List.reverse_cons, List.append_assoc, List.singleton_append]
  exact (typeAbove?_eq_some_iff _ type).2 ⟨_, _, others, rfl, near, named, silent⟩

/-- A form gives its name the type of the form, on the line of the name. -/
theorem storage?_text {t : IntegerType} (identifier : IsIdentifier name)
    (plain : isIntegerWord name = false) (other : name ∉ keywords) (word : IsIdentifier type)
    (known : IntegerType.ofBindingName? type = some t) (fits : form.Fits name)
    {front back : String} (starts : EndsLine front) (absent : ¬ Mentions front name)
    (follows : StartsAtLineEnd back) :
    storage? (front ++ form.text name type ++ back) name =
      some ⟨t, type, 1 + (front ++ form.text name type).toList.count '\n'⟩ := by
  have integer : isIntegerWord type = true := by rw [isIntegerWord, known]; rfl
  have different : name ≠ type := by
    rintro rfl
    rw [plain] at integer
    cases integer
  obtain ⟨single, silent⟩ := above_absent word fits different other
  let lead := front ++ joinLines (form.above type)
  have ends : EndsLine lead := starts.append (endsLine_joinLines _)
  have linesAbove : lines lead =
      lines front ++ (form.above type).map fun line => withoutReturn line.toList := by
    rw [lines_append starts, lines_joinLines single]
  have missing : ¬ Mentions lead name := by
    rw [mentions_iff_exists_line, linesAbove]
    rintro ⟨line, member, inside⟩
    rcases List.mem_append.1 member with before | own
    · exact absent ((mentions_iff_exists_line front name).2 ⟨line, before, inside⟩)
    · obtain ⟨filler, listed, rfl⟩ := List.mem_map.1 own
      exact silent filler listed inside
  have inner := not_mem_line identifier word fits
  obtain ⟨last, final, visible⟩ : ∃ last, (form.line name type).toList.getLast? = some last ∧
      last ≠ '\r' := by
    rcases getLast?_line name type form with brace | semicolon
    · exact ⟨'{', brace, by decide⟩
    · exact ⟨';', semicolon, by decide⟩
  obtain ⟨later, linesBehind⟩ := exists_lines_append inner final visible follows
  have parts : front ++ form.text name type ++ back = lead ++ (form.line name type ++ back) := by
    simp only [lead, text, String.append_assoc]
  have count : (front ++ form.text name type).toList.count '\n' = lead.toList.count '\n' := by
    simp only [lead, text, String.toList_append, List.count_append, List.count_eq_zero.2 inner,
      Nat.add_zero]
  have reached : ∀ between, form = .attributed between →
      typeAbove? (lines lead).reverse = some type := by
    rintro between rfl
    rw [linesAbove, List.reverse_append]
    exact typeAbove?_above word integer fits _
  rw [parts, storage?_append ends missing, linesBehind, storageFrom,
    lineStorage?_line identifier word known different other fits reached, count]

end Recognition

end BindingForm

open BindingForm in
/-- Every form is recognized for all names, for every word that stands for an integer type and
between any other lines. The storage that is found is the type of the form on the line of the name,
and of any enum the values outside the range of this type are reported, in their order. -/
theorem binding_form_is_recognized (form : BindingForm) {name type : String} {t : IntegerType}
    (identifier : IsIdentifier name) (plain : isIntegerWord name = false) (other : name ∉ keywords)
    (word : IsIdentifier type) (known : IntegerType.ofBindingName? type = some t)
    (fits : form.Fits name) {front back : String} (starts : EndsLine front)
    (absent : ¬ Mentions front name) (follows : StartsAtLineEnd back) :
    let text := front ++ form.text name type ++ back
    let storage : Storage := ⟨t, type, 1 + (front ++ form.text name type).toList.count '\n'⟩
    storage? text name = some storage ∧ ∀ decl : EnumDecl,
      Verification.storedWidth text name decl =
        (decl.values.filter fun v => v.value.toInt < t.least ∨ t.greatest < v.value.toInt).map
          (.storedTooNarrow name storage) := by
  intro text storage
  have found : storage? text name = some storage :=
    storage?_text identifier plain other word known fits starts absent follows
  refine ⟨found, fun decl => ?_⟩
  rw [Verification.storedWidth, found]
  dsimp only
  congr 1
  refine List.filter_congr fun v _ => ?_
  rw [Bool.eq_iff_iff]
  simp only [IntegerType.holds, Bool.not_eq_true', Bool.and_eq_false_iff, decide_eq_false_iff_not,
    Int.not_le, decide_eq_true_iff, storage]

open BindingForm in
/-- An attribute with another one below it, and a path that starts at the root. -/
theorem binding_form_is_recognized_samples :
    let commented := "// widths\n#[repr(u16)]\n#[derive(Clone, Copy)]\n// wide\n" ++
      "pub enum Enum_Force_UInt16 \x7b\n\x7d"
    let path := "pub type Enum_Force_SInt16 = ::std::os::raw::c_short;"
    storage? commented "Enum_Force_UInt16" = some ⟨⟨.w16, false⟩, "u16", 5⟩ ∧
      storage? path "Enum_Force_SInt16" = some ⟨⟨.w16, true⟩, "c_short", 1⟩ := by
  intro commented path
  have unmentioned : ∀ line word, (firstLines line).contains word = false → ¬ Mentions line word :=
    fun line word absent => mt (contains_firstLines_iff line word).2 (Bool.eq_false_iff.1 absent)
  have single : ∀ line ∈ ["#[derive(Clone, Copy)]", "// wide"], '\n' ∉ line.toList := by decide
  have silent : ∀ line ∈ ["#[derive(Clone, Copy)]", "// wide"],
      (firstLines line).contains "repr" = false ∧
        (firstLines line).contains "Enum_Force_UInt16" = false := by decide
  have between : (attributed ["#[derive(Clone, Copy)]", "// wide"]).Fits "Enum_Force_UInt16" :=
    ⟨by decide, fun line member => ⟨single line member, unmentioned _ _ (silent line member).1,
      unmentioned _ _ (silent line member).2⟩⟩
  have parts : (synonym true ["std", "os", "raw"]).Fits "Enum_Force_SInt16" := by
    have table : ∀ part ∈ ["std", "os", "raw"], IsIdentifier part ∧ isIntegerWord part = false := by
      decide
    exact table
  have comment : EndsLine "// widths\n" := by decide
  have closing : StartsAtLineEnd "\n\x7d" := by decide
  have commentedText : commented = "// widths\n" ++
      (attributed ["#[derive(Clone, Copy)]", "// wide"]).text "Enum_Force_UInt16" "u16" ++ "\n\x7d" := by
    decide
  have pathText : path =
      "" ++ (synonym true ["std", "os", "raw"]).text "Enum_Force_SInt16" "c_short" ++ "" := by
    decide
  have short : IntegerType.ofBindingName? "u16" = some ⟨.w16, false⟩ := by decide
  have signedShort : IntegerType.ofBindingName? "c_short" = some ⟨.w16, true⟩ := by decide
  constructor
  · rw [commentedText, (binding_form_is_recognized _ (by decide) (by decide) (by decide) (by decide)
      short between comment (unmentioned _ _ (by decide)) closing).1]
    decide
  · rw [pathText, (binding_form_is_recognized _ (by decide) (by decide) (by decide) (by decide)
      signedShort parts (.inl rfl) (not_mentions_empty _) (.inl rfl)).1]
    decide

end HeaderBindings
