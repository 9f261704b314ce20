import HeaderBindings.Proofs.Artifact.Place
import HeaderBindings.Proofs.Artifact.Words
import HeaderBindings.Proofs.Text.Slice

/-!
# Where the identifiers of a line stand

The identifiers of a line are the words that stand on it, one for each place, and the offset of an
identifier is the number of bytes in front of it (`mem_identifiers_iff`). They come in the order of
their offsets (`identifiers_increasing`), so the list is determined by the line. Word characters
take one byte each; the characters around them may take more.
-/

namespace HeaderBindings.Artifact

open HeaderBindings.Text

theorem utf8Size_of_isWordChar {c : Char} (inner : isWordChar c = true) : c.utf8Size = 1 := by
  rw [Char.utf8Size_eq_one_iff, UInt32.le_iff_toNat_le]
  exact Nat.le_trans (toNat_of_isWordChar inner).2 (by decide)

theorem byteSize_of_word {word : List Char} (each : ∀ c ∈ word, isWordChar c = true) :
    byteSize word = word.length := by
  induction word with
  | nil => rfl
  | cons c word ih =>
    obtain ⟨inner, others⟩ := List.forall_mem_cons.1 each
    rw [byteSize_cons, utf8Size_of_isWordChar inner, ih others, List.length_cons, Nat.add_comm]

theorem ofRun_eq (run : List Char) (ending : Nat) (after : List Char) :
    ofRun run ending after =
      (runSpelling run).map fun text => ⟨ending - run.length, text, after⟩ := by
  unfold ofRun runSpelling
  cases run.reverse with
  | nil => rfl
  | cons first others => cases digit : first.isDigit <;> simp [digit]

theorem pairwise_ofRun (r : Identifier → Identifier → Prop) (run : List Char) (ending : Nat)
    (after : List Char) : (ofRun run ending after).Pairwise r := by
  unfold ofRun
  split
  · exact .nil
  · split
    · exact .nil
    · exact List.pairwise_singleton _ _

section Runs

variable {run : List Char} (each : ∀ c ∈ run, isWordChar c = true)

include each

theorem byteSize_run : byteSize run.reverse = run.length := by
  rw [byteSize_of_word (forall_mem_reverse each), List.length_reverse]

theorem mem_ofRun_iff (start : Nat) (after : List Char) (w : Identifier) :
    w ∈ ofRun run (start + run.length) after ↔
      IsIdentifier w.text ∧ w.text.toList = run.reverse ∧ w.offset = start ∧ w.after = after := by
  rw [ofRun_eq, List.mem_map, Nat.add_sub_cancel]
  constructor
  · rintro ⟨text, spelled, rfl⟩
    obtain ⟨identifier, same⟩ := (mem_runSpelling_iff each text).1 spelled
    exact ⟨identifier, same, rfl, rfl⟩
  · rintro ⟨identifier, same, rfl, rfl⟩
    exact ⟨w.text, (mem_runSpelling_iff each w.text).2 ⟨identifier, same⟩, rfl⟩

/-- The identifiers behind a run are the words that stand in it and in what follows, with the bytes
before them counted from the start of the run. -/
theorem mem_identifiersFrom_iff (start : Nat) (cs : List Char) (w : Identifier) :
    w ∈ identifiersFrom (start + run.length) run cs ↔ IsIdentifier w.text ∧ ∃ before,
      StandsBetween (run.reverse ++ cs) before w.text.toList w.after ∧
        w.offset = start + byteSize before := by
  induction cs generalizing start run with
  | nil =>
    rw [identifiersFrom, mem_ofRun_iff each]
    refine and_congr_right fun identifier => ?_
    have ended : ∀ c ∈ ([] : List Char).head?, isWordChar c = false := by simp
    have places := standsBetween_append_iff (forall_mem_reverse each) identifier.1
      identifier.ne_nil ended
    constructor
    · rintro ⟨whole, place, rest⟩
      exact ⟨[], (places _ _).2 (.inl ⟨rfl, whole, rest⟩), place⟩
    · rintro ⟨before, stands, place⟩
      rcases (places _ _).1 stands with ⟨rfl, whole, rest⟩ | ⟨_, _, _, none, -⟩
      · exact ⟨whole, place, rest⟩
      · cases none
  | cons c cs ih =>
    rw [identifiersFrom]
    split
    · rename_i inner
      have longer : ∀ d ∈ c :: run, isWordChar d = true := List.forall_mem_cons.2 ⟨inner, each⟩
      have next := ih longer start
      rw [List.reverse_cons, List.append_assoc, List.singleton_append, List.length_cons,
        ← Nat.add_assoc] at next
      rwa [utf8Size_of_isWordChar inner]
    · rename_i separates
      have ended : ∀ d ∈ (c :: cs).head?, isWordChar d = false := by simpa using separates
      have reversed := forall_mem_reverse each
      have later := ih (List.forall_mem_nil _) (start + run.length + c.utf8Size)
      rw [List.length_nil, Nat.add_zero, List.reverse_nil, List.nil_append] at later
      rw [List.mem_append, mem_ofRun_iff each, later, ← and_or_left]
      refine and_congr_right fun identifier => ?_
      have places := standsBetween_append_iff reversed identifier.1 identifier.ne_nil ended
      -- The run and the separator stand in front of every later word.
      have shift : ∀ gap, byteSize (run.reverse ++ c :: gap) =
          run.length + c.utf8Size + byteSize gap := by
        intro gap
        rw [byteSize_append, byteSize_run each, byteSize_cons, Nat.add_assoc]
      constructor
      · rintro (⟨whole, place, rest⟩ | ⟨gap, stands, place⟩)
        · exact ⟨[], (places _ _).2 (.inl ⟨rfl, whole, rest⟩), place⟩
        · refine ⟨_, (places _ _).2 (.inr ⟨c, cs, gap, rfl, rfl, stands⟩), ?_⟩
          rw [shift, place]
          omega
      · rintro ⟨before, stands, place⟩
        rcases (places _ _).1 stands with ⟨rfl, whole, rest⟩ | ⟨_, _, gap, ⟨rfl, rfl⟩, rfl, inner⟩
        · exact .inl ⟨whole, place, rest⟩
        · refine .inr ⟨gap, inner, ?_⟩
          rw [place, shift]
          omega

/-- A run of word characters starts before everything that a separator parts it from. -/
theorem identifiersFrom_increasing (start : Nat) (cs : List Char) :
    (identifiersFrom (start + run.length) run cs).Pairwise fun v w => v.offset < w.offset := by
  induction cs generalizing start run with
  | nil => exact pairwise_ofRun _ run _ _
  | cons c cs ih =>
    rw [identifiersFrom]
    split
    · rename_i inner
      rw [utf8Size_of_isWordChar inner]
      exact ih (List.forall_mem_cons.2 ⟨inner, each⟩) start
    · rw [List.pairwise_append]
      refine ⟨pairwise_ofRun _ run _ _, ih (List.forall_mem_nil _) _, fun v first w later => ?_⟩
      obtain ⟨-, -, place, -⟩ := (mem_ofRun_iff each start _ v).1 first
      obtain ⟨-, gap, -, behind⟩ := (mem_identifiersFrom_iff (List.forall_mem_nil _)
        (start + run.length + c.utf8Size) cs w).1 later
      have positive := c.utf8Size_pos
      omega

end Runs

/-- The identifiers of a line are the words that stand on it, each with the bytes in front of it. -/
theorem mem_identifiers_iff (line : List Char) (w : Identifier) :
    w ∈ identifiers line ↔ IsIdentifier w.text ∧ ∃ before,
      StandsBetween line before w.text.toList w.after ∧ w.offset = byteSize before := by
  have behind := mem_identifiersFrom_iff (List.forall_mem_nil _) 0 line w
  simp only [Nat.zero_add] at behind
  exact behind

/-- An identifier stands right in front of what is behind it, so its offset can be told from that. -/
theorem offset_of_mem_identifiers {line front : List Char} {w : Identifier}
    (member : w ∈ identifiers line) (split : line = front ++ (w.text.toList ++ w.after)) :
    w.offset = byteSize front := by
  obtain ⟨-, before, stands, place⟩ := (mem_identifiers_iff line w).1 member
  rw [place, List.append_cancel_right (stands.split.symm.trans split)]

theorem identifiers_increasing (line : List Char) :
    (identifiers line).Pairwise fun v w => v.offset < w.offset :=
  identifiersFrom_increasing (List.forall_mem_nil _) 0 line

/-- The words of identifiers with their offsets. -/
def placed (words : List Identifier) : List (Nat × String) :=
  words.map fun w => (w.offset, w.text)

section Placed

@[simp]
theorem placed_nil : placed [] = [] :=
  rfl

@[simp]
theorem placed_cons (w : Identifier) (words : List Identifier) :
    placed (w :: words) = (w.offset, w.text) :: placed words :=
  rfl

@[simp]
theorem placed_append (words others : List Identifier) :
    placed (words ++ others) = placed words ++ placed others :=
  List.map_append

@[simp]
theorem length_placed (words : List Identifier) : (placed words).length = words.length :=
  List.length_map _

@[simp]
theorem map_snd_placed (words : List Identifier) :
    (placed words).map (·.2) = words.map (·.text) := by
  rw [placed, List.map_map]
  rfl

end Placed

/-- Whether a word stands on a line as an identifier, with the given number of bytes before it. -/
def StandsAt (line : String) (offset : Nat) (word : String) : Prop :=
  IsIdentifier word ∧ ∃ before after,
    StandsBetween line.toList before word.toList after ∧ offset = (String.ofList before).utf8ByteSize

/-- Whether words with offsets are those that stand on a line, in the order of their places, with
their bytes at their offsets and boundaries of characters at both ends. -/
structure ExactlyPlaced (line : String) (words : List (Nat × String)) : Prop where
  increasing : words.Pairwise fun v w => v.1 < w.1
  complete : ∀ offset word, (offset, word) ∈ words ↔ StandsAt line offset word
  bytes : ∀ w ∈ words,
    line.toByteArray.extract w.1 (w.1 + w.2.utf8ByteSize) = w.2.toByteArray
  boundaries : ∀ w ∈ words,
    IsBoundary line w.1 ∧ IsBoundary line (w.1 + w.2.utf8ByteSize)

theorem mem_placed_iff (line : String) (offset : Nat) (word : String) :
    (offset, word) ∈ placed (identifiers line.toList) ↔ StandsAt line offset word := by
  unfold placed StandsAt
  rw [List.mem_map]
  constructor
  · rintro ⟨w, member, same⟩
    obtain ⟨rfl, rfl⟩ := Prod.mk.inj same
    obtain ⟨identifier, before, stands, place⟩ := (mem_identifiers_iff _ w).1 member
    exact ⟨identifier, before, w.after, stands, place⟩
  · rintro ⟨identifier, before, after, stands, place⟩
    exact ⟨⟨offset, word, after⟩, (mem_identifiers_iff _ _).2 ⟨identifier, before, stands, place⟩,
      rfl⟩

/-- A word that stands on a line splits it into three texts. -/
theorem StandsAt.exists_append {line word : String} {offset : Nat}
    (stands : StandsAt line offset word) :
    ∃ front rest, line = front ++ (word ++ rest) ∧ offset = front.utf8ByteSize := by
  obtain ⟨-, before, after, ⟨split, -, -⟩, place⟩ := stands
  refine ⟨String.ofList before, String.ofList after, ?_, place⟩
  rw [← String.toList_inj, split]
  simp only [String.toList_append, String.toList_ofList]

theorem exactlyPlaced (line : String) :
    ExactlyPlaced line (placed (identifiers line.toList)) where
  increasing := List.pairwise_map.2 (identifiers_increasing line.toList)
  complete := mem_placed_iff line
  bytes := by
    rintro ⟨offset, word⟩ member
    obtain ⟨front, rest, rfl, rfl⟩ := ((mem_placed_iff _ _ _).1 member).exists_append
    exact extract_toByteArray_append front word rest
  boundaries := by
    rintro ⟨offset, word⟩ member
    obtain ⟨front, rest, rfl, rfl⟩ := ((mem_placed_iff _ _ _).1 member).exists_append
    exact ⟨isBoundary_append front _, isBoundary_append_append front word rest⟩

end HeaderBindings.Artifact
