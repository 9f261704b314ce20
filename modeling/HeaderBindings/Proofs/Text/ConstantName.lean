import HeaderBindings.Proofs.Artifact.Words
import HeaderBindings.Proofs.Text.ConstantCase

/-!
# The constant case of an identifier

On ASCII letters, digits and underscores every character is a cluster of its own
(`clusters_of_ascii`), and the cut into words and their joining come down to one rule: an
underscore is put between a lower-case letter and an upper-case letter directly behind it, and then
every letter is put in upper case (`toList_constantCase_of_word`).

So nothing of a name is lost but its case. An underscore of the name separates two parts that are
converted on their own (`constantCase_append_underscore`), and a name without lower-case letters
stays as it is (`constantCase_of_no_lower`).
-/

namespace HeaderBindings

open HeaderBindings.Artifact HeaderBindings.Text

namespace Text

/-- Characters with an underscore put between every lower-case letter and an upper-case letter
directly behind it. -/
def spaced : List Char → List Char
  | [] => []
  | c :: rest =>
    if c.isLower && rest.head?.any Char.isUpper then c :: '_' :: spaced rest
    else c :: spaced rest

theorem isLower_of_isUpper {c : Char} (capital : c.isUpper = true) : c.isLower = false := by
  rw [Bool.eq_false_iff, ne_eq, isLower_iff]
  rw [isUpper_iff] at capital
  omega

section Ascii

variable {c : Char} (ascii : c.toNat < 0x80)

include ascii

theorem isUpper_singleton : isUpper [c] = c.isUpper :=
  of_ascii_codes (p := fun c => isUpper [c] = c.isUpper) ascii (by decide)

theorem isLower_singleton : isLower [c] = c.isLower :=
  of_ascii_codes (p := fun c => isLower [c] = c.isLower) ascii (by decide)

theorem upper_singleton : upper [c] = [c.toUpper] := by
  rw [upper, List.flatMap_singleton, upperChar, if_pos ascii]

/-- No ASCII character belongs to the cluster of another one. -/
theorem joinsCluster_of_ascii {last : Char} (before : last.toNat < 0x80) :
    joinsCluster [last] c = false := by
  have marks : joinsPrevious c = false :=
    of_ascii_codes (p := fun c => joinsPrevious c = false) ascii (by decide)
  have signs : joinsNext last = false :=
    of_ascii_codes (p := fun c => joinsNext c = false) before (by decide)
  have pictures : isPictograph c = false :=
    of_ascii_codes (p := fun c => isPictograph c = false) ascii (by decide)
  rw [joinsCluster, marks, signs, pictures]
  rfl

end Ascii

section Rule

variable {cs : List Char} (ascii : ∀ c ∈ cs, c.toNat < 0x80)

include ascii

theorem clustersFrom_of_ascii {last : Char} (before : last.toNat < 0x80) :
    clustersFrom [last] cs = (last :: cs).map fun c => [c] := by
  induction cs generalizing last with
  | nil => rfl
  | cons c rest ih =>
    obtain ⟨first, others⟩ := List.forall_mem_cons.1 ascii
    rw [clustersFrom, joinsCluster_of_ascii first before, ih others first]
    rfl

theorem clusters_of_ascii : clusters cs = cs.map fun c => [c] := by
  cases cs with
  | nil => rfl
  | cons c rest =>
    obtain ⟨first, others⟩ := List.forall_mem_cons.1 ascii
    exact clustersFrom_of_ascii others first

/-- Behind a lower-case letter the constant case of an upper-case letter starts a new word. -/
theorem constantFrom_of_ascii (afterLower : Bool) :
    constantFrom afterLower (cs.map fun c => [c]) =
      (if afterLower && cs.head?.any Char.isUpper then ['_'] else []) ++
        (spaced cs).map Char.toUpper := by
  induction cs generalizing afterLower with
  | nil => cases afterLower <;> rfl
  | cons c rest ih =>
    obtain ⟨first, others⟩ := List.forall_mem_cons.1 ascii
    have following : (spaced (c :: rest)).map Char.toUpper =
        c.toUpper :: constantFrom c.isLower (rest.map fun c => [c]) := by
      rw [ih others, spaced]
      split <;> rfl
    rw [following, List.map_cons, constantFrom, isUpper_singleton first, isLower_singleton first,
      upper_singleton first, List.head?_cons, Option.any_some]
    by_cases underscore : c = '_'
    · subst underscore
      cases afterLower <;> rfl
    · rw [if_neg (by simpa using underscore)]
      split
      · rename_i boundary
        have capital : c.isUpper = true := (Bool.and_eq_true_iff.1 boundary).2
        rw [isLower_of_isUpper capital]
        rfl
      · rfl

end Rule

section Spacing

/-- An underscore is no letter, so nothing is put next to it. -/
theorem spaced_append_underscore (front rest : List Char) :
    spaced (front ++ '_' :: rest) = spaced front ++ '_' :: spaced rest := by
  induction front with
  | nil => rfl
  | cons c front ih =>
    have next : (front ++ '_' :: rest).head?.any Char.isUpper = front.head?.any Char.isUpper := by
      cases front <;> rfl
    rw [List.cons_append, spaced, spaced, next, ih]
    split <;> rfl

theorem filter_spaced (cs : List Char) :
    (spaced cs).filter (· != '_') = cs.filter (· != '_') := by
  induction cs with
  | nil => rfl
  | cons c rest ih =>
    rw [spaced]
    split
    · rw [List.filter_cons, List.filter_cons_of_neg (by decide), ih, List.filter_cons]
    · rw [List.filter_cons, ih, List.filter_cons]

theorem spaced_of_no_lower {cs : List Char} (capitals : ∀ c ∈ cs, c.isLower = false) :
    spaced cs = cs := by
  induction cs with
  | nil => rfl
  | cons c rest ih =>
    obtain ⟨first, others⟩ := List.forall_mem_cons.1 capitals
    rw [spaced, first, ih others]
    rfl

theorem mem_spaced {cs : List Char} {c : Char} (member : c ∈ spaced cs) : c = '_' ∨ c ∈ cs := by
  by_cases underscore : c = '_'
  · exact .inl underscore
  · have kept : c ∈ (spaced cs).filter (· != '_') :=
      List.mem_filter.2 ⟨member, bne_iff_ne.2 underscore⟩
    rw [filter_spaced] at kept
    exact .inr (List.mem_filter.1 kept).1

end Spacing

end Text

section Names

variable {c : Char} (inner : isWordChar c = true)

include inner

theorem ascii_of_isWordChar : c.toNat < 0x80 :=
  Nat.lt_of_le_of_lt (toNat_of_isWordChar inner).2 (by decide)

theorem isWordChar_toUpper : isWordChar c.toUpper = true := by
  have codes := of_ascii_codes (p := fun c => isWordChar c = true → isWordChar c.toUpper = true)
    (ascii_of_isWordChar inner) (by decide)
  exact codes inner

theorem toUpper_bne_underscore : (c.toUpper != '_') = (c != '_') :=
  of_ascii_codes (p := fun c => (c.toUpper != '_') = (c != '_')) (ascii_of_isWordChar inner)
    (by decide)

theorem toUpper_of_no_lower (capital : c.isLower = false) : c.toUpper = c := by
  have codes := of_ascii_codes (p := fun c => c.isLower = false → c.toUpper = c)
    (ascii_of_isWordChar inner) (by decide)
  exact codes capital

end Names

section Words

variable {name : String} (letters : name.toList.all isWordChar = true)

include letters

/-- The constant case of a word has an underscore more between the parts of it that a change from
lower to upper case tells apart, and its letters are in upper case. -/
theorem toList_constantCase_of_word :
    (constantCase name).toList = (spaced name.toList).map Char.toUpper := by
  have ascii : ∀ c ∈ name.toList, c.toNat < 0x80 := fun c member =>
    ascii_of_isWordChar (List.all_eq_true.1 letters c member)
  rw [toList_constantCase, clusters_of_ascii ascii, constantFrom_of_ascii ascii]
  rfl

theorem isWordChar_of_mem_spaced : ∀ c ∈ spaced name.toList, isWordChar c = true := by
  intro c member
  rcases mem_spaced member with rfl | inside
  · rfl
  · exact List.all_eq_true.1 letters c inside

theorem all_isWordChar_constantCase : (constantCase name).toList.all isWordChar = true := by
  rw [toList_constantCase_of_word letters, List.all_map, List.all_eq_true]
  exact fun c member => isWordChar_toUpper (isWordChar_of_mem_spaced letters c member)

theorem filter_constantCase : (constantCase name).toList.filter (· != '_') =
    (name.toList.filter (· != '_')).map Char.toUpper := by
  have underscores : ∀ c ∈ spaced name.toList, (c.toUpper != '_') = (c != '_') := fun c member =>
    toUpper_bne_underscore (isWordChar_of_mem_spaced letters c member)
  rw [toList_constantCase_of_word letters, List.filter_map, ← filter_spaced name.toList]
  exact congrArg _ (List.filter_congr underscores)

/-- A word without lower-case letters is its own constant case. -/
theorem constantCase_of_no_lower (capitals : ∀ c ∈ name.toList, c.isLower = false) :
    constantCase name = name := by
  have unchanged : ∀ c ∈ name.toList, c.toUpper = c := fun c member =>
    toUpper_of_no_lower (List.all_eq_true.1 letters c member) (capitals c member)
  rw [← String.toList_inj, toList_constantCase_of_word letters, spaced_of_no_lower capitals,
    List.map_congr_left unchanged, List.map_id']

end Words

/-- The two parts of a name around an underscore are converted on their own. -/
theorem constantCase_append_underscore {front rest : String}
    (letters : (front ++ "_" ++ rest).toList.all isWordChar = true) :
    constantCase (front ++ "_" ++ rest) = constantCase front ++ "_" ++ constantCase rest := by
  have spelled : (front ++ "_" ++ rest).toList = front.toList ++ '_' :: rest.toList := by simp
  have parts := letters
  rw [spelled, List.all_append, List.all_cons, Bool.and_eq_true, Bool.and_eq_true] at parts
  rw [← String.toList_inj, toList_constantCase_of_word letters, spelled, spaced_append_underscore,
    List.map_append, List.map_cons, String.toList_append, String.toList_append,
    toList_constantCase_of_word parts.1, toList_constantCase_of_word parts.2.2]
  simp

/-- The constant case of a word of letters, digits and underscores is the word with an underscore
put between every lower-case letter and an upper-case letter directly behind it, all letters in
upper case. Without underscores it is the word in upper case, every underscore of the word stays
between the constant cases of its two sides, and the constant case of a constant case is itself. -/
theorem constant_case_is_lossless_and_stable {name : String}
    (letters : name.toList.all isWordChar = true) :
    (constantCase name).toList = (spaced name.toList).map Char.toUpper ∧
    (constantCase name).toList.filter (· != '_') =
      (name.toList.filter (· != '_')).map Char.toUpper ∧
    (∀ front rest, name = front ++ "_" ++ rest →
      constantCase name = constantCase front ++ "_" ++ constantCase rest) ∧
    constantCase (constantCase name) = constantCase name := by
  refine ⟨toList_constantCase_of_word letters, filter_constantCase letters, ?_, ?_⟩
  · rintro front rest rfl
    exact constantCase_append_underscore letters
  · exact constantCase_of_no_lower (all_isWordChar_constantCase letters)
      fun c => isLower_of_mem_constantCase

theorem constant_case_is_lossless_and_stable_samples :
    "_XmlHttp2Type__".toList.all isWordChar = true ∧
      constantCase "_XmlHttp2Type__" = "_XML_HTTP2TYPE__" ∧
      constantCase "_XmlHttp2Type__" = constantCase "_XmlHttp2Type_" ++ "_" ++ constantCase "" ∧
      constantCase (constantCase "_XmlHttp2Type__") = constantCase "_XmlHttp2Type__" := by
  have letters : "_XmlHttp2Type__".toList.all isWordChar = true := by decide
  obtain ⟨rule, -, parts, stable⟩ := constant_case_is_lossless_and_stable letters
  refine ⟨letters, ?_, parts _ _ (by decide), stable⟩
  rw [← String.toList_inj, rule]
  decide

end HeaderBindings
