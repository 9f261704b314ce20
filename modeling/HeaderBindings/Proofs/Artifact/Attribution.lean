import HeaderBindings.Proofs.Artifact.Recognition

/-!
# Which attribute an enum is given

An enum that has no type behind its name is given the type of an attribute above it. The attribute
is looked for on the three lines above, and the nearest one that names a type counts, whatever
else stands on the lines between (`plain_enum_takes_nearest_attribute`). So an enum without an
attribute of its own can be given the one of the enum before it
(`attribute_of_other_enum_is_taken`).
-/

namespace HeaderBindings

open HeaderBindings.Artifact HeaderBindings.Text

/-- Whether the first attribute of a line names a type: the first integer word behind it. -/
def AttributeNames (line : List Char) (type : String) : Prop :=
  ∃ before between after, spellings [] line = before ++ "repr" :: (between ++ type :: after) ∧
    "repr" ∉ before ∧ isIntegerWord type = true ∧ ∀ word ∈ between, isIntegerWord word = false

theorem AttributeNames.isIntegerWord {line : List Char} {type : String}
    (names : AttributeNames line type) : isIntegerWord type = true := by
  obtain ⟨-, -, -, -, -, integer, -⟩ := names
  exact integer

/-- Whether a name stands on one line of a text only, and first as the name of an enum that has
neither a type behind it nor an attribute before it on the line. -/
structure PlainEnum (text name : String) (above : List (List Char)) (front rest : List Char)
    (below : List (List Char)) : Prop where
  identifier : IsIdentifier name
  split : lines text = above ++ (front ++ (name.toList ++ rest)) :: below
  /-- No other line has the name. -/
  elsewhere : ∀ line ∈ above ++ below, name ∉ spellings [] line
  starts : ∀ c ∈ front.getLast?, isWordChar c = false
  ends : ∀ c ∈ rest.head?, isWordChar c = false
  first : name ∉ spellings [] front
  keyword : (spellings [] front).getLast? = some "enum"
  unattributed : "repr" ∉ spellings [] front
  untyped : continuesWith ':' rest = false

/-- Whether a line declares an enum of another name. -/
def DeclaresOtherEnum (line : List Char) (name : String) : Prop :=
  ∃ before other after, spellings [] line = before ++ "enum" :: other :: after ∧ other ≠ name

/-- Whether each attribute on lines has an enum of another name on a line behind it. -/
def AttributesSpent (above : List (List Char)) (name : String) : Prop :=
  ∀ far line near, above = far ++ line :: near → "repr" ∈ spellings [] line →
    ∃ between ∈ near, DeclaresOtherEnum between name

namespace Artifact

theorem attributeWord?_eq_some_iff (line : List Char) (type : String) :
    attributeWord? (spellings [] line) = some type ↔ AttributeNames line type := by
  unfold attributeWord? AttributeNames
  constructor
  · intro found
    obtain ⟨integer, between, after, behind, others⟩ := List.find?_eq_some_iff_append.1 found
    have split := List.takeWhile_append_dropWhile (p := (· != "repr")) (l := spellings [] line)
    have stop := List.head?_dropWhile_not (· != "repr") (spellings [] line)
    cases rest : (spellings [] line).dropWhile (· != "repr") with
    | nil =>
      rw [rest] at behind
      exact absurd behind.symm (List.append_ne_nil_of_right_ne_nil _ (List.cons_ne_nil _ _))
    | cons word words =>
      rw [rest] at behind stop split
      have keyword : word = "repr" := by simpa using stop
      have earlier : "repr" ∉ (spellings [] line).takeWhile (· != "repr") := fun inside => by
        simpa using List.mem_takeWhile_imp inside
      refine ⟨_, between, after, ?_, earlier, integer, by simpa using others⟩
      rw [keyword] at split
      rw [← behind, List.tail_cons, split]
  · rintro ⟨before, between, after, split, first, integer, others⟩
    have different : ∀ word ∈ before, (word != "repr") = true := fun word member => by
      simpa using fun same : word = "repr" => first (same ▸ member)
    have dropped : (spellings [] line).dropWhile (· != "repr") =
        "repr" :: (between ++ type :: after) := by
      rw [split, List.dropWhile_append_of_pos different]
      exact List.dropWhile_cons_of_neg (by simp)
    rw [dropped, List.tail_cons, List.find?_eq_some_iff_append]
    exact ⟨integer, between, after, rfl, by simpa using others⟩

theorem attributeWord?_eq_none_iff (line : List Char) :
    attributeWord? (spellings [] line) = none ↔ ∀ type, ¬ AttributeNames line type := by
  simp only [← attributeWord?_eq_some_iff, Option.eq_none_iff_forall_ne_some, ne_eq]

theorem typeAbove?_reverse_eq_some_iff (above : List (List Char)) (type : String) :
    typeAbove? above.reverse = some type ↔ ∃ far line near, above = far ++ line :: near ∧
      near.length < attributeReach ∧ AttributeNames line type ∧
      ∀ other ∈ near, ∀ t, ¬ AttributeNames other t := by
  simp only [typeAbove?_eq_some_iff, attributeWord?_eq_some_iff, attributeWord?_eq_none_iff]
  constructor
  · rintro ⟨near, line, far, split, reach, named, silent⟩
    refine ⟨far.reverse, line, near.reverse, ?_, by simpa using reach, named, by simpa using silent⟩
    rw [← List.reverse_reverse above, split]
    simp
  · rintro ⟨far, line, near, rfl, reach, named, silent⟩
    exact ⟨near.reverse, line, far.reverse, by simp, by simpa using reach, named,
      by simpa using silent⟩

theorem typeAbove?_reverse_eq_none_iff (above : List (List Char)) :
    typeAbove? above.reverse = none ↔ ∀ far line near, above = far ++ line :: near →
      near.length < attributeReach → ∀ type, ¬ AttributeNames line type := by
  constructor
  · rintro nothing far line near rfl reach
    rw [← attributeWord?_eq_none_iff]
    refine List.findSome?_eq_none_iff.1 nothing line ?_
    rw [List.reverse_append, List.reverse_cons, List.append_assoc, List.singleton_append,
      List.take_append, List.length_reverse, List.take_cons (by omega)]
    exact List.mem_append_right _ List.mem_cons_self
  · intro silent
    rw [Option.eq_none_iff_forall_ne_some]
    intro type found
    obtain ⟨far, line, near, split, reach, named, -⟩ :=
      (typeAbove?_reverse_eq_some_iff above type).1 found
    exact silent far line near split reach type named

/-- A plain enum is given what the attributes above it name. -/
theorem storage?_of_plainEnum {text name : String} {above below : List (List Char)}
    {front rest : List Char} (plain : PlainEnum text name above front rest below) :
    storage? text name = (typeAbove? above.reverse).bind fun type =>
      (IntegerType.ofBindingName? type).map fun t => ⟨t, type, above.length + 1⟩ := by
  obtain ⟨absentAbove, absentBelow⟩ := List.forall_mem_append.1 plain.elsewhere
  obtain ⟨before, start, later, earlier, -, storage⟩ :=
    exists_lineStorage?_eq plain.identifier plain.starts plain.ends plain.first
  have last : (before.map (·.text)).getLast? = some "enum" := earlier ▸ plain.keyword
  have unnamed : attributeWord? (before.map (·.text)) = none :=
    attributeWord?_eq_none (earlier ▸ plain.unattributed)
  have word : storageWord? above.reverse before ⟨start, name, rest⟩ later =
      typeAbove? above.reverse := by
    rw [storageWord?_of_enum last plain.untyped, unnamed]
    rfl
  rw [storage?, plain.split, storageFrom_append_of_absent absentAbove, List.append_nil, storageFrom,
    storage, word, storageFrom_of_absent absentBelow, Nat.add_comm 1]
  split
  · rename_i found
    exact found.symm
  · rename_i missing
    exact missing.symm

end Artifact

/-- A plain enum is given the type of the nearest attribute above that names one, if it is on one
of the three lines above; the other words of these lines do not matter. -/
theorem plain_enum_takes_nearest_attribute {text name : String} {above below : List (List Char)}
    {front rest : List Char} (plain : PlainEnum text name above front rest below) :
    (∀ s : Storage, storage? text name = some s ↔
      (∃ far line near, above = far ++ line :: near ∧ near.length < attributeReach ∧
        AttributeNames line s.spelling ∧ ∀ other ∈ near, ∀ type, ¬ AttributeNames other type) ∧
      IntegerType.ofBindingName? s.spelling = some s.integerType ∧ s.line = above.length + 1) ∧
    (storage? text name = none ↔ ∀ far line near, above = far ++ line :: near →
      near.length < attributeReach → ∀ type, ¬ AttributeNames line type) := by
  rw [storage?_of_plainEnum plain]
  constructor
  · intro s
    rw [← typeAbove?_reverse_eq_some_iff, Option.bind_eq_some_iff]
    constructor
    · rintro ⟨type, named, known⟩
      obtain ⟨t, stored, rfl⟩ := Option.map_eq_some_iff.1 known
      exact ⟨named, stored, rfl⟩
    · rintro ⟨named, stored, placed⟩
      refine ⟨s.spelling, named, ?_⟩
      rw [stored, Option.map_some, ← placed]
  · rw [← typeAbove?_reverse_eq_none_iff, Option.bind_eq_none_iff]
    constructor
    · -- An attribute names integer types only, so a named type is never lost.
      intro lost
      rw [Option.eq_none_iff_forall_ne_some]
      intro type named
      obtain ⟨_, _, _, _, _, names, _⟩ := (typeAbove?_reverse_eq_some_iff above type).1 named
      have integer := names.isIntegerWord
      rw [isIntegerWord, ← Option.isSome_map, lost type named] at integer
      exact Bool.false_ne_true integer
    · intro nothing type named
      rw [nothing] at named
      exact absurd named (Option.some_ne_none _).symm

/-- Of two attributes the nearer one counts, and one on the fourth line above is out of reach. -/
theorem plain_enum_takes_nearest_attribute_samples :
    storage? "#[repr(u16)]\n#[repr(u8)]\n// byte\npub enum Near \x7b" "Near" =
        some ⟨⟨.w8, false⟩, "u8", 4⟩ ∧
      storage? "#[repr(u8)]\n\n\n\npub enum Far \x7b" "Far" = none := by
  have near : PlainEnum "#[repr(u16)]\n#[repr(u8)]\n// byte\npub enum Near \x7b" "Near"
      ["#[repr(u16)]".toList, "#[repr(u8)]".toList, "// byte".toList] "pub enum ".toList
      " \x7b".toList [] := by
    exact ⟨by decide, by decide, by decide, isWordChar_eq_false_of_any (by decide),
      isWordChar_eq_false_of_any (by decide), by decide, by decide, by decide, by decide⟩
  have far : PlainEnum "#[repr(u8)]\n\n\n\npub enum Far \x7b" "Far"
      ["#[repr(u8)]".toList, [], [], []] "pub enum ".toList " \x7b".toList [] := by
    exact ⟨by decide, by decide, by decide, isWordChar_eq_false_of_any (by decide),
      isWordChar_eq_false_of_any (by decide), by decide, by decide, by decide, by decide⟩
  constructor
  · have names : AttributeNames "#[repr(u8)]".toList "u8" :=
      ⟨[], [], [], by decide, by decide, by decide, by decide⟩
    have silent : ∀ other ∈ ["// byte".toList], ∀ type, ¬ AttributeNames other type := by
      intro other member
      rw [← attributeWord?_eq_none_iff, List.mem_singleton.1 member]
      decide
    refine ((plain_enum_takes_nearest_attribute near).1 _).2 ⟨?_, by decide, by decide⟩
    exact ⟨["#[repr(u16)]".toList], _, ["// byte".toList], rfl, by decide, names, silent⟩
  · refine (plain_enum_takes_nearest_attribute far).2.2 fun before line after split reach => ?_
    rw [← attributeWord?_eq_none_iff]
    cases before with
    | nil =>
      obtain ⟨-, rfl⟩ := List.cons.inj split
      exact absurd reach (by decide)
    | cons first before =>
      have inside : line ∈ [[], [], []] :=
        (List.cons.inj split).2 ▸ List.mem_append_right before List.mem_cons_self
      have blank : line = [] := by simpa using inside
      rw [blank]
      decide

/-- An enum without an attribute is given the one of the enum above it. -/
theorem attribute_of_other_enum_is_taken :
    let text := "#[repr(u8)]\npub enum A \x7b X = 1 \x7d\npub enum B \x7b Y = 300 \x7d"
    let above := ["#[repr(u8)]".toList, "pub enum A \x7b X = 1 \x7d".toList]
    PlainEnum text "B" above "pub enum ".toList " \x7b Y = 300 \x7d".toList [] ∧
      AttributesSpent above "B" ∧
      storage? text "B" = some ⟨⟨.w8, false⟩, "u8", 3⟩ := by
  intro text above
  have plain : PlainEnum text "B" above "pub enum ".toList " \x7b Y = 300 \x7d".toList [] := by
    exact ⟨by decide, by decide, by decide, isWordChar_eq_false_of_any (by decide),
      isWordChar_eq_false_of_any (by decide), by decide, by decide, by decide, by decide⟩
  have other : DeclaresOtherEnum "pub enum A \x7b X = 1 \x7d".toList "B" :=
    ⟨["pub"], "A", ["X"], by decide, by decide⟩
  refine ⟨plain, fun far line near split attributed => ?_, by decide⟩
  cases far with
  | nil =>
    obtain ⟨-, rfl⟩ := List.cons.inj split
    exact ⟨_, List.mem_singleton_self _, other⟩
  | cons first far =>
    -- The line of the other enum has no attribute.
    have inside : line ∈ ["pub enum A \x7b X = 1 \x7d".toList] :=
      (List.cons.inj split).2 ▸ List.mem_append_right far List.mem_cons_self
    rw [List.mem_singleton.1 inside] at attributed
    exact absurd attributed (by decide)

end HeaderBindings
