import HeaderBindings.NameMap

/-!
# The order of names is the order of their bytes

Names are compared character by character, by code points. The encoding of a character in
UTF-8 starts with a greater byte the longer it is, and encodings of one length compare like
the numbers that they spell in base 64. So the bytes of two texts compare like the texts
(`bytesBefore_iff`), and a list of names that is increasing is increasing in its bytes.
-/

namespace HeaderBindings.Text

/-- The bytes of a text in UTF-8. -/
def bytes (s : String) : List UInt8 :=
  s.toByteArray.data.toList

/-- Whether a text comes before another one in the order of their bytes. -/
def BytesBefore (a b : String) : Prop :=
  bytes a < bytes b

theorem bytes_eq (s : String) : bytes s = s.toList.flatMap String.utf8EncodeChar := by
  have encoded : s.toByteArray = s.toList.utf8Encode :=
    congrArg String.toByteArray (String.ofList_toList (s := s)).symm
  rw [bytes, encoded, List.utf8Encode]
  simp

/-- Numbers that fit into a byte compare like their bytes. -/
theorem ofNat_cons_lt_iff {m n : Nat} (left : m < 256) (right : n < 256) (xs ys : List UInt8) :
    UInt8.ofNat m :: xs < UInt8.ofNat n :: ys ↔ m < n ∨ m = n ∧ xs < ys := by
  rw [List.cons_lt_cons_iff, UInt8.lt_iff_toNat_lt, ← UInt8.toNat_inj,
    UInt8.toNat_ofNat_of_lt' left, UInt8.toNat_ofNat_of_lt' right]

/-- Of two characters the lower one has the lower encoding, whatever follows: the encodings differ
before either of them ends. -/
theorem encodeChar_append_lt {c d : Char} (below : c < d) (xs ys : List UInt8) :
    String.utf8EncodeChar c ++ xs < String.utf8EncodeChar d ++ ys := by
  have less : c.val.toNat < d.val.toNat := below
  have bound : d.val.toNat < 0x110000 := by
    have valid : d.val.toNat < 0xd800 ∨ 0xdfff < d.val.toNat ∧ d.val.toNat < 0x110000 := d.valid
    omega
  have digits : ∀ v, v / 262144 = v / 64 / 64 / 64 ∧ v / 4096 = v / 64 / 64 := by omega
  -- One goal for each pair of lengths.
  fun_cases String.utf8EncodeChar c <;> fun_cases String.utf8EncodeChar d <;>
    simp (disch := omega) only [List.cons_append, List.nil_append, ofNat_cons_lt_iff,
      (digits _).1, (digits _).2] <;> omega

theorem flatMap_encodeChar_lt {cs ds : List Char} (below : cs < ds) :
    cs.flatMap String.utf8EncodeChar < ds.flatMap String.utf8EncodeChar := by
  induction below with
  | nil =>
    rename_i d ds
    have nonempty : (d :: ds).flatMap String.utf8EncodeChar ≠ [] := by simp
    obtain ⟨byte, rest, split⟩ := List.exists_cons_of_ne_nil nonempty
    rw [split]
    exact .nil
  | rel below =>
    rw [List.flatMap_cons, List.flatMap_cons]
    exact encodeChar_append_lt below _ _
  | cons _ ih =>
    rw [List.flatMap_cons, List.flatMap_cons]
    exact List.append_left_lt ih

/-- Texts compare like their bytes. -/
theorem bytesBefore_iff (a b : String) : BytesBefore a b ↔ a < b := by
  have forward : ∀ {a b : String}, a < b → bytes a < bytes b := by
    intro a b below
    rw [bytes_eq, bytes_eq]
    exact flatMap_encodeChar_lt below
  refine ⟨fun bytesBelow => ?_, forward⟩
  rcases Decidable.em (a = b) with rfl | different
  · exact absurd bytesBelow (List.lt_irrefl _)
  · apply Decidable.byContradiction
    intro notBelow
    exact List.lt_asymm bytesBelow (forward (NameMap.lt_of_not_lt notBelow different))

theorem pairwise_bytesBefore {names : List String} (sorted : names.Pairwise (· < ·)) :
    names.Pairwise BytesBefore :=
  sorted.imp fun below => (bytesBefore_iff _ _).2 below

end HeaderBindings.Text
