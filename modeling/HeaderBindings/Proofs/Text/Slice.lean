/-!
# Slices of texts

A text is cut by byte offsets, and a cut is only possible at a boundary of characters. Slicing
fails if an offset is out of bounds or within a character, or if the two offsets are out of order;
else it gives the text whose bytes stand between them (`slice?_eq_some_iff`). The offsets of a part
are the byte sizes of what stands before it, characters of any size included.
-/

namespace HeaderBindings.Text

/-- Whether a byte offset of a text is the start or the end of it or stands between two of its
characters. -/
def IsBoundary (text : String) (offset : Nat) : Prop :=
  (⟨offset⟩ : String.Pos.Raw).IsValid text

instance (text : String) (offset : Nat) : Decidable (IsBoundary text offset) :=
  inferInstanceAs (Decidable ((⟨offset⟩ : String.Pos.Raw).IsValid text))

/-- The part of a text between two byte offsets, if they are boundaries and in order. -/
def slice? (text : String) (start stop : Nat) : Option String :=
  if start ≤ stop ∧ IsBoundary text start ∧ IsBoundary text stop then
    String.fromUTF8? (text.toByteArray.extract start stop)
  else none

/-- The number of bytes that characters take up. -/
def byteSize (cs : List Char) : Nat :=
  (String.ofList cs).utf8ByteSize

section Size

@[simp]
theorem byteSize_nil : byteSize [] = 0 :=
  rfl

@[simp]
theorem byteSize_append (cs ds : List Char) : byteSize (cs ++ ds) = byteSize cs + byteSize ds := by
  rw [byteSize, String.ofList_append, String.utf8ByteSize_append]
  rfl

@[simp]
theorem byteSize_cons (c : Char) (cs : List Char) :
    byteSize (c :: cs) = c.utf8Size + byteSize cs := by
  have single : byteSize [c] = c.utf8Size := by
    rw [byteSize, ← String.singleton_eq_ofList, String.utf8ByteSize_singleton]
  rw [← List.singleton_append, byteSize_append, single]

theorem byteSize_eq_zero_iff (cs : List Char) : byteSize cs = 0 ↔ cs = [] := by
  cases cs with
  | nil => exact iff_of_true rfl rfl
  | cons c cs =>
    have positive := c.utf8Size_pos
    rw [byteSize_cons]
    exact iff_of_false (by omega) (List.cons_ne_nil c cs)

theorem byteSize_toList (text : String) : byteSize text.toList = text.utf8ByteSize := by
  rw [byteSize, String.ofList_toList]

end Size

theorem isBoundary_iff (text : String) (offset : Nat) :
    IsBoundary text offset ↔ ∃ front rest, text = front ++ rest ∧ offset = front.utf8ByteSize := by
  unfold IsBoundary
  rw [String.Pos.Raw.isValid_iff_exists_append]
  simp only [String.Pos.Raw.ext_iff, String.byteIdx_rawEndPos]

theorem isBoundary_append (front rest : String) :
    IsBoundary (front ++ rest) front.utf8ByteSize :=
  (isBoundary_iff _ _).2 ⟨front, rest, rfl, rfl⟩

theorem isBoundary_append_append (front word rest : String) :
    IsBoundary (front ++ (word ++ rest)) (front.utf8ByteSize + word.utf8ByteSize) := by
  rw [← String.append_assoc, ← String.utf8ByteSize_append]
  exact isBoundary_append _ _

/-- The bytes at the offsets of a part are those of the part. -/
theorem extract_toByteArray_append (front word rest : String) :
    (front ++ (word ++ rest)).toByteArray.extract front.utf8ByteSize
      (front.utf8ByteSize + word.utf8ByteSize) = word.toByteArray := by
  have behind := ByteArray.extract_append_size_add (a := front.toByteArray)
    (b := word.toByteArray ++ rest.toByteArray) (i := 0) (j := word.toByteArray.size)
  rw [String.toByteArray_append, String.toByteArray_append]
  exact behind.trans (ByteArray.extract_append_eq_left rfl)

theorem fromUTF8?_toByteArray (text : String) : String.fromUTF8? text.toByteArray = some text :=
  dif_pos text.isValidUTF8

theorem slice?_append (front word rest : String) :
    slice? (front ++ (word ++ rest)) front.utf8ByteSize (front.utf8ByteSize + word.utf8ByteSize) =
      some word := by
  rw [slice?, if_pos ⟨Nat.le_add_right _ _, isBoundary_append _ _, isBoundary_append_append _ _ _⟩,
    extract_toByteArray_append, fromUTF8?_toByteArray]

/-- Of two fronts of a text the smaller one is a front of the other. -/
theorem exists_append_of_utf8ByteSize_le {front rest longer other : String}
    (same : front ++ rest = longer ++ other) (smaller : front.utf8ByteSize ≤ longer.utf8ByteSize) :
    ∃ word, longer = front ++ word ∧ rest = word ++ other := by
  have spelled := congrArg String.toList same
  rw [String.toList_append, String.toList_append, List.append_eq_append_iff] at spelled
  rcases spelled with ⟨word, left, right⟩ | ⟨word, left, right⟩
  · refine ⟨String.ofList word, ?_, ?_⟩
    · rw [← String.toList_inj, String.toList_append, String.toList_ofList, left]
    · rw [← String.toList_inj, String.toList_append, String.toList_ofList, right]
  · -- Nothing stands between two fronts of one size.
    have sizes := congrArg byteSize left
    rw [byteSize_append, byteSize_toList, byteSize_toList] at sizes
    have nothing : word = [] := (byteSize_eq_zero_iff word).1 (by omega)
    subst nothing
    rw [List.append_nil, String.toList_inj] at left
    rw [List.nil_append, String.toList_inj] at right
    exact ⟨"", by rw [left, String.append_empty], by rw [right, String.empty_append]⟩

/-- A slice is the part of the text that stands at the two offsets. -/
theorem slice?_eq_some_iff (text : String) (start stop : Nat) (word : String) :
    slice? text start stop = some word ↔ ∃ front rest, text = front ++ (word ++ rest) ∧
      start = front.utf8ByteSize ∧ stop = front.utf8ByteSize + word.utf8ByteSize := by
  constructor
  · intro cut
    unfold slice? at cut
    split at cut
    · rename_i inside
      obtain ⟨ordered, first, last⟩ := inside
      obtain ⟨front, behind, rfl, rfl⟩ := (isBoundary_iff _ _).1 first
      obtain ⟨longer, rest, same, rfl⟩ := (isBoundary_iff _ _).1 last
      obtain ⟨part, rfl, rfl⟩ := exists_append_of_utf8ByteSize_le same ordered
      rw [String.utf8ByteSize_append, extract_toByteArray_append, fromUTF8?_toByteArray] at cut
      cases cut
      exact ⟨front, rest, rfl, rfl, String.utf8ByteSize_append⟩
    · cases cut
  · rintro ⟨front, rest, rfl, rfl, rfl⟩
    exact slice?_append front word rest

-- An offset within a character cuts nothing.
example : slice? "é=x" 2 4 = some "=x" ∧ slice? "é=x" 1 4 = none := by decide

/-- Slicing in terms of the characters of a text. -/
theorem slice?_of_toList {text : String} {front word rest : List Char}
    (split : text.toList = front ++ (word ++ rest)) :
    slice? text (byteSize front) (byteSize front + byteSize word) = some (String.ofList word) := by
  have parts : text = String.ofList front ++ (String.ofList word ++ String.ofList rest) := by
    rw [← String.ofList_append, ← String.ofList_append, ← split, String.ofList_toList]
  exact (slice?_eq_some_iff _ _ _ _).2 ⟨_, _, parts, rfl, rfl⟩

theorem slice?_front {text : String} {front rest : List Char}
    (split : text.toList = front ++ rest) :
    slice? text 0 (byteSize front) = some (String.ofList front) := by
  have whole : text.toList = [] ++ (front ++ rest) := split
  have cut := slice?_of_toList whole
  rwa [byteSize_nil, Nat.zero_add] at cut

theorem slice?_rest {text : String} {front rest : List Char}
    (split : text.toList = front ++ rest) :
    slice? text (byteSize front) text.utf8ByteSize = some (String.ofList rest) := by
  have whole : text.toList = front ++ (rest ++ []) := by rw [split, List.append_nil]
  have cut := slice?_of_toList whole
  rwa [← byteSize_append, ← split, byteSize_toList] at cut

end HeaderBindings.Text
