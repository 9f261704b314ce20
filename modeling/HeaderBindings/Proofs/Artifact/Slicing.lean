import HeaderBindings.Proofs.Artifact.FirstMention
import HeaderBindings.Proofs.Artifact.Offset

/-!
# Reading storage by offsets

The storage of an enum can be read off a text by offsets alone: the words of a line are cut out of
it at the offsets where they start and end, what stands behind a name is the slice from the offset
of the name plus its size on, what stands before it is the slice up to its offset, and words and
lines are taken by their positions. Each of these steps fails outside its bounds, and a slice also
fails within a character; `none` stands for such a failure all through this module.

No step ever fails. Words start and end at boundaries of characters, the name has the size of the
word that it is compared with, and a position is only used where a search has found it. So the
reading by offsets always has an answer, which is that of the plain search
(`wordsBySlices?_eq`, `reprBySlices?_eq`, `storageBySlices?_eq`).
-/

namespace HeaderBindings

open HeaderBindings.Artifact HeaderBindings.Text

namespace Artifact

/-- The entries of a list between two positions, if these are in order and within bounds. -/
def part? {α : Type} (xs : List α) (start stop : Nat) : Option (List α) :=
  if start ≤ stop ∧ stop ≤ xs.length then some ((xs.take stop).drop start) else none

/-- The word that ends at an offset and whose start is given, if there is one. Words that start with
a digit do not count. -/
def wordBySlice? (line : String) (start : Option Nat) (stop : Nat) :
    Option (List (Nat × String)) :=
  match start with
  | none => some []
  | some start => do
    let word ← slice? line start stop
    return if word.toList.head?.any Char.isDigit then [] else [(start, word)]

/-- The words of a line from an offset on, with their offsets. The start of the word that reaches
over this offset is given, if there is one. -/
def wordsBySlicesFrom? (line : String) (start : Option Nat) (offset : Nat) :
    List Char → Option (List (Nat × String))
  | [] => wordBySlice? line start line.utf8ByteSize
  | c :: rest =>
    if isWordChar c then wordsBySlicesFrom? line (start.or (some offset)) (offset + c.utf8Size) rest
    else do
      let word ← wordBySlice? line start offset
      let later ← wordsBySlicesFrom? line none (offset + c.utf8Size) rest
      return word ++ later

/-- The words of a line with their offsets. -/
def wordsBySlices? (line : String) : Option (List (Nat × String)) :=
  wordsBySlicesFrom? line none 0 line.toList

/-- The integer word that a representation attribute on a line names. -/
def reprBySlices? (line : String) : Option (Option String) := do
  let words ← wordsBySlices? line
  match words.findIdx? (·.2 == "repr") with
  | none => return none
  | some position =>
    let later ← part? words (position + 1) words.length
    return (later.map (·.2)).find? isIntegerWord

/-- The integer word of the attribute of an enum: before its name on the line, whose offset is given,
or on one of the lines above. The line has the given index among all lines. -/
def attributeBySlices? (lines : List String) (index : Nat) (line : String) (offset : Nat) :
    Option (Option String) := do
  let front ← slice? line 0 offset
  match ← reprBySlices? front with
  | some word => return some word
  | none =>
    let above ← part? lines (index - attributeReach) index
    above.reverse.findSomeM? reprBySlices?

/-- The word that gives a name its storage, by the position and the offset of the name on its line,
the word before it and what stands behind it. -/
def spellingBySlices? (lines : List String) (index : Nat) (line : String)
    (words : List (Nat × String)) (position offset : Nat) (previous rest : String) :
    Option (Option String) :=
  if previous = "enum" then
    if continuesWith ':' rest.toList then some (words[position + 1]?.map (·.2))
    else attributeBySlices? lines index line offset
  else if previous = "type" ∧ continuesWith '=' rest.toList then do
    let later ← part? words (position + 1) words.length
    return (later.map (·.2)).find? isIntegerWord
  else if previous = "struct" ∧ continuesWith '(' rest.toList then
    match words[position + 1]?.map (·.2) with
    | some "pub" => some (words[position + 2]?.map (·.2))
    | other => some other
  else do
    let (_, first) ← words[0]?
    return if first = "typedef" ∧ position + 1 = words.length then some previous else none

/-- The storage that the line of an index declares for a name. -/
def lineStorageBySlices? (lines : List String) (name : String) (index : Nat) (line : String) :
    Option (Option Storage) := do
  let words ← wordsBySlices? line
  match words.findIdx? (·.2 == name) with
  | none => return none
  | some position =>
    let (offset, _) ← words[position]?
    let rest ← slice? line (offset + name.utf8ByteSize) line.utf8ByteSize
    match position with
    | 0 => return none
    | before + 1 =>
      let (_, previous) ← words[before]?
      let spelling ← spellingBySlices? lines index line words position offset previous rest
      return spelling.bind fun word =>
        (IntegerType.ofBindingName? word).map fun t => ⟨t, word, index + 1⟩

/-- The first storage declared for a name on the lines from an index on. -/
def storageBySlicesFrom? (lines : List String) (name : String) (index : Nat) :
    List String → Option (Option Storage)
  | [] => some none
  | line :: rest => do
    match ← lineStorageBySlices? lines name index line with
    | some s => return some s
    | none => storageBySlicesFrom? lines name (index + 1) rest

/-- The storage that a text declares for a name. -/
def storageBySlices? (text name : String) : Option (Option Storage) :=
  let all := (lines text).map String.ofList
  storageBySlicesFrom? all name 0 all

section Parts

variable {α : Type}

theorem part?_append (xs ys : List α) :
    part? (xs ++ ys) xs.length (xs ++ ys).length = some ys := by
  rw [part?, if_pos ⟨by simp, Nat.le_refl _⟩, List.take_length, List.drop_left]

/-- The last entries before a position, from the nearest on. -/
theorem part?_sub (xs ys : List α) (reach : Nat) :
    (part? (xs ++ ys) (xs.length - reach) xs.length).map List.reverse =
      some (xs.reverse.take reach) := by
  rw [part?, if_pos ⟨Nat.sub_le _ _, by simp⟩, List.take_left, Option.map_some, List.take_reverse]

theorem findSomeM?_of_forall {β : Type} {f : α → Option (Option β)} {g : α → Option β}
    (answers : ∀ x, f x = some (g x)) (xs : List α) :
    xs.findSomeM? f = some (xs.findSome? g) := by
  induction xs with
  | nil => rfl
  | cons x xs ih =>
    rw [List.findSomeM?_cons, answers, List.findSome?_cons]
    cases g x with
    | none => exact ih
    | some y => rfl

end Parts

section Words

/-- Where a run of word characters starts, if there is one. -/
def runStart (front run : List Char) : Option Nat :=
  if run = [] then none else some (byteSize front)

theorem runStart_cons (front run : List Char) (c : Char) :
    (runStart front run).or (some (byteSize front + run.length)) = runStart front (c :: run) := by
  by_cases empty : run = []
  · subst empty
    rfl
  · rw [runStart, runStart, if_neg empty, if_neg (List.cons_ne_nil c run)]
    rfl

variable {line : String} {front run rest : List Char} (each : ∀ c ∈ run, isWordChar c = true)

include each

/-- The slice at the offsets of a run is the run. -/
theorem wordBySlice?_eq (split : line.toList = front ++ (run.reverse ++ rest))
    (after : List Char) :
    wordBySlice? line (runStart front run) (byteSize front + run.length) =
      some (placed (ofRun run (byteSize front + run.length) after)) := by
  by_cases empty : run = []
  · subst empty
    rfl
  · have cut := slice?_of_toList split
    rw [byteSize_run each] at cut
    rw [runStart, if_neg empty, wordBySlice?, cut]
    simp only [Option.bind_eq_bind, Option.bind_some, String.toList_ofList, ofRun]
    cases letters : run.reverse with
    | nil => exact absurd (List.reverse_eq_nil_iff.1 letters) empty
    | cons first others =>
      cases digit : first.isDigit <;> simp [digit]

/-- A scan by offsets gives the words of a line. -/
theorem wordsBySlicesFrom?_eq (split : line.toList = front ++ (run.reverse ++ rest)) :
    wordsBySlicesFrom? line (runStart front run) (byteSize front + run.length) rest =
      some (placed (identifiersFrom (byteSize front + run.length) run rest)) := by
  induction rest generalizing front run with
  | nil =>
    have size : line.utf8ByteSize = byteSize front + run.length := by
      rw [← byteSize_toList, split, byteSize_append, List.append_nil, byteSize_run each]
    rw [wordsBySlicesFrom?, size]
    exact wordBySlice?_eq each split []
  | cons c rest ih =>
    rw [wordsBySlicesFrom?, identifiersFrom]
    split
    · rename_i inner
      have longer : ∀ d ∈ c :: run, isWordChar d = true := List.forall_mem_cons.2 ⟨inner, each⟩
      rw [runStart_cons, utf8Size_of_isWordChar inner]
      refine ih longer ?_
      rw [split, List.reverse_cons, List.append_assoc, List.singleton_append]
    · -- The run is over, and the words behind the separator start from nothing.
      have behind : line.toList = (front ++ (run.reverse ++ [c])) ++ ([].reverse ++ rest) := by
        simp [split]
      have offset : byteSize (front ++ (run.reverse ++ [c])) =
          byteSize front + run.length + c.utf8Size := by
        simp [byteSize_run each, Nat.add_assoc]
      have later := ih (List.forall_mem_nil _) behind
      rw [List.length_nil, Nat.add_zero, offset] at later
      change wordsBySlicesFrom? line none _ rest = _ at later
      rw [wordBySlice?_eq each split (c :: rest), later, placed_append]
      rfl

end Words

theorem wordsBySlices?_eq (line : String) :
    wordsBySlices? line = some (placed (identifiers line.toList)) := by
  have whole : line.toList = [] ++ ([].reverse ++ line.toList) := rfl
  exact wordsBySlicesFrom?_eq (List.forall_mem_nil _) whole

section Positions

variable (before : List Identifier) (found : Identifier) (later : List Identifier)

theorem getElem?_placed_later (skip : Nat) :
    (placed (before ++ found :: later))[before.length + 1 + skip]?.map (·.2) =
      (later.map (·.text))[skip]? := by
  have place : before.length + 1 + skip = (placed (before ++ [found])).length + skip := by simp
  have words : placed (before ++ found :: later) = placed (before ++ [found]) ++ placed later := by
    simp
  rw [words, place, List.getElem?_append_right (Nat.le_add_right _ _), Nat.add_sub_cancel_left,
    ← List.getElem?_map, map_snd_placed]

theorem part?_placed_later :
    part? (placed (before ++ found :: later)) (before.length + 1)
      (placed (before ++ found :: later)).length = some (placed later) := by
  have behind := part?_append (placed (before ++ [found])) (placed later)
  rwa [← placed_append, List.append_assoc, List.singleton_append, length_placed (before ++ [found]),
    List.length_append, List.length_singleton] at behind

end Positions

section Search

/-- A name that is one of the words of a line has a first place among them. -/
theorem exists_first_of_mem {words : List Identifier} {name : String}
    (member : name ∈ words.map (·.text)) :
    ∃ before found later, words = before ++ found :: later ∧ found.text = name ∧
      name ∉ before.map (·.text) := by
  obtain ⟨before, later, split, absent⟩ := List.eq_append_cons_of_mem member
  obtain ⟨front, behind, rfl, rfl, same⟩ := List.map_eq_append_iff.1 split
  obtain ⟨found, rest, rfl, named, rfl⟩ := List.map_eq_cons_iff.1 same
  exact ⟨front, found, rest, rfl, named, absent⟩

theorem findIdx?_placed_of_absent {words : List Identifier} {name : String}
    (absent : name ∉ words.map (·.text)) : (placed words).findIdx? (·.2 == name) = none := by
  rw [List.findIdx?_eq_none_iff]
  intro w member
  refine beq_eq_false_iff_ne.2 fun same => absent ?_
  rw [← map_snd_placed]
  exact List.mem_map.2 ⟨w, member, same⟩

theorem findIdx?_placed {before : List Identifier} {found : Identifier} {name : String}
    (named : found.text = name) (absent : name ∉ before.map (·.text)) (later : List Identifier) :
    (placed (before ++ found :: later)).findIdx? (·.2 == name) = some before.length := by
  rw [placed_append, List.findIdx?_append, findIdx?_placed_of_absent absent, placed_cons,
    List.findIdx?_cons, named]
  simp

/-- The words behind an attribute are those behind the position of its keyword. -/
theorem reprBySlices?_eq (line : String) :
    reprBySlices? line = some (reprWord? (identifiers line.toList)) := by
  rw [reprBySlices?, wordsBySlices?_eq]
  by_cases attributed : "repr" ∈ (identifiers line.toList).map (·.text)
  · obtain ⟨before, found, later, split, named, absent⟩ := exists_first_of_mem attributed
    have word : reprWord? (before ++ found :: later) =
        (later.map (·.text)).find? isIntegerWord := by
      have others : ∀ w ∈ before, (w.text != "repr") = true := fun w member =>
        bne_iff_ne.2 fun same => absent (List.mem_map.2 ⟨w, member, same⟩)
      rw [reprWord?, List.dropWhile_append_of_pos others,
        List.dropWhile_cons_of_neg (by simp [named]), List.tail_cons]
    simp only [split, Option.bind_eq_bind, Option.bind_some, findIdx?_placed named absent,
      part?_placed_later, map_snd_placed, word]
    rfl
  · have word : reprWord? (identifiers line.toList) = none := by
      rw [reprWord?_eq, attributeWord?_eq_none attributed]
    simp only [Option.bind_eq_bind, Option.bind_some, findIdx?_placed_of_absent attributed, word]
    rfl

end Search

section Storage

variable {before : List Identifier} {found : Identifier} {line : String} {front : List Char}
  {lines : List String} {index : Nat} {above : List (List Char)} {previous : String}

/-- The words before an enum are those of the slice in front of its name, and the lines above it are
those before its index. -/
theorem attributeBySlices?_eq (cut : slice? line 0 found.offset = some (String.ofList front))
    (earlier : before.map (·.text) = spellings [] front)
    (near : (part? lines (index - attributeReach) index).map List.reverse =
      some ((above.take attributeReach).map String.ofList)) :
    attributeBySlices? lines index line found.offset =
      some (reprWord? before <|>
        (above.take attributeReach).findSome? fun line => reprWord? (identifiers line)) := by
  have own : reprWord? (identifiers front) = reprWord? before := by
    rw [reprWord?_eq, reprWord?_eq, map_text_identifiers, earlier]
  obtain ⟨lower, taken, reversed⟩ := Option.map_eq_some_iff.1 near
  rw [attributeBySlices?, cut]
  simp only [Option.bind_eq_bind, Option.bind_some, reprBySlices?_eq, String.toList_ofList, own]
  cases reprWord? before with
  | some word => rfl
  | none =>
    simp only [taken, Option.bind_some, reversed]
    rw [findSomeM?_of_forall reprBySlices?_eq, List.findSome?_map]
    simp only [Function.comp_def, String.toList_ofList]
    rfl

/-- Whichever form the words around a name have, the offsets lead to the word that gives the name
its storage. -/
theorem spellingBySlices?_eq (cut : slice? line 0 found.offset = some (String.ofList front))
    (earlier : before.map (·.text) = spellings [] front)
    (near : (part? lines (index - attributeReach) index).map List.reverse =
      some ((above.take attributeReach).map String.ofList))
    (last : before.getLast?.map (·.text) = some previous) (later : List Identifier) :
    spellingBySlices? lines index line (placed (before ++ found :: later)) before.length
        found.offset previous (String.ofList found.after) =
      some (storageWord? above before found later) := by
  have first := getElem?_placed_later before found later 0
  have second := getElem?_placed_later before found later 1
  rw [Nat.add_zero] at first
  rw [Nat.add_assoc] at second
  unfold spellingBySlices? storageWord?
  rw [last, String.toList_ofList, first, second]
  dsimp only
  -- The two sides try the forms in the same order.
  split
  · split
    · rw [← List.head?_eq_getElem?, List.head?_map]
    · exact attributeBySlices?_eq cut earlier near
  split
  · rw [part?_placed_later]
    simp only [Option.bind_eq_bind, Option.bind_some, map_snd_placed]
    rfl
  split
  · cases later.map (·.text) with
    | nil => rfl
    | cons word rest =>
      by_cases visible : word = "pub"
      · subst visible
        simp [List.head?_eq_getElem?]
      · simp [visible]
  · cases before with
    | nil => cases last
    | cons w others =>
      have final : (w :: others).length + 1 = (placed (w :: others ++ found :: later)).length ↔
          later = [] := by
        simp only [length_placed, List.length_append, List.length_cons, ← List.length_eq_zero_iff]
        omega
      simp only [final]
      simp

end Storage

section Lines

/-- The lines within reach of an attribute, from the nearest on. -/
theorem part?_above (done rest : List (List Char)) :
    (part? ((done ++ rest).map String.ofList) (done.length - attributeReach) done.length).map
      List.reverse = some ((done.reverse.take attributeReach).map String.ofList) := by
  have near := part?_sub (done.map String.ofList) (rest.map String.ofList) attributeReach
  rwa [← List.map_append, List.length_map, ← List.map_reverse, ← List.map_take] at near

/-- The first mention of a name on a line is one of the identifiers of the line, at the offset where
it stands. -/
theorem exists_identifiers_of_firstMention {name : String} {line front behind : List Char}
    (mention : FirstMention name line front behind) :
    ∃ before found later, identifiers line = before ++ found :: later ∧ found.text = name ∧
      found.offset = byteSize front ∧ found.after = behind ∧
      before.map (·.text) = spellings [] front := by
  obtain ⟨before, start, later, same, earlier, -⟩ :=
    exists_identifiers_append mention.identifier mention.starts mention.ends
  rw [← mention.split] at same
  have member : (⟨start, name, behind⟩ : Identifier) ∈ identifiers line := by simp [same]
  exact ⟨before, _, later, same, rfl, offset_of_mem_identifiers member mention.split, rfl, earlier⟩

/-- What the first mention of a name says about its storage is found by offsets. -/
theorem lineStorageBySlices?_eq (name : String) (done : List (List Char)) (line : List Char)
    (rest : List (List Char)) :
    lineStorageBySlices? ((done ++ line :: rest).map String.ofList) name done.length
        (String.ofList line) = some (lineStorage? name (done.length + 1) done.reverse line) := by
  rw [lineStorageBySlices?, wordsBySlices?_eq, String.toList_ofList]
  by_cases mentioned : name ∈ spellings [] line
  · obtain ⟨front, behind, mention⟩ := exists_firstMention mentioned
    obtain ⟨before, found, later, words, named, place, rfl, earlier⟩ :=
      exists_identifiers_of_firstMention mention
    have absent : name ∉ before.map (·.text) := earlier ▸ mention.first
    have cutFront : slice? (String.ofList line) 0 found.offset = some (String.ofList front) := by
      rw [place]
      exact slice?_front (by rw [String.toList_ofList, mention.split])
    have cutRest : slice? (String.ofList line) (found.offset + name.utf8ByteSize)
        (String.ofList line).utf8ByteSize = some (String.ofList found.after) := by
      rw [place, ← byteSize_toList name, ← byteSize_append]
      exact slice?_rest (by rw [String.toList_ofList, mention.split, List.append_assoc])
    have here : (placed (before ++ found :: later))[before.length]? =
        some (found.offset, found.text) := by
      simp
    rw [lineStorage?_of_first words named absent, words]
    simp only [Option.bind_eq_bind, Option.bind_some, findIdx?_placed named absent, here, cutRest]
    rcases List.eq_nil_or_concat before with rfl | ⟨others, previous, rfl⟩
    · rfl
    · rw [List.concat_eq_append] at *
      have last : (placed (others ++ [previous] ++ found :: later))[others.length]? =
          some (previous.offset, previous.text) := by
        simp
      have ending : (others ++ [previous]).getLast?.map (·.text) = some previous.text := by simp
      have spelling := spellingBySlices?_eq cutFront earlier (part?_above done (line :: rest))
        ending later
      rw [List.length_append, List.length_singleton] at spelling ⊢
      simp only [last, Option.bind_some, spelling]
      rfl
  · have absent : name ∉ (identifiers line).map (·.text) := by rwa [map_text_identifiers]
    rw [lineStorage?_of_absent mentioned]
    simp only [Option.bind_eq_bind, Option.bind_some, findIdx?_placed_of_absent absent]
    rfl

/-- The search by offsets goes from line to line like the plain one; the lines that it has passed
are those above. -/
theorem storageBySlicesFrom?_eq (name : String) (done ls : List (List Char)) :
    storageBySlicesFrom? ((done ++ ls).map String.ofList) name done.length (ls.map String.ofList) =
      some (storageFrom name (done.length + 1) done.reverse ls) := by
  induction ls generalizing done with
  | nil => rfl
  | cons line rest ih =>
    have next := ih (done ++ [line])
    rw [List.append_assoc, List.singleton_append, List.length_append, List.length_singleton,
      List.reverse_append] at next
    rw [List.map_cons, storageBySlicesFrom?, lineStorageBySlices?_eq, storageFrom]
    simp only [Option.bind_eq_bind, Option.bind_some]
    cases lineStorage? name (done.length + 1) done.reverse line with
    | some s => rfl
    | none => exact next

theorem storageBySlices?_eq (text name : String) :
    storageBySlices? text name = some (storage? text name) :=
  storageBySlicesFrom?_eq name [] (lines text)

end Lines

end Artifact

/-- The scan of a line finds the words that stand on it, in order, each with the number of bytes
before it; the bytes there are those of the word, and both its ends are boundaries of characters.
So no slice and no position fails, neither on a single line nor in the search for the storage of a
name. -/
theorem word_offsets_are_exact :
    (∀ line : String, wordsBySlices? line = some (placed (identifiers line.toList)) ∧
      ExactlyPlaced line (placed (identifiers line.toList))) ∧
    (∀ line : String, reprBySlices? line = some (reprWord? (identifiers line.toList))) ∧
    ∀ text name : String, storageBySlices? text name = some (storage? text name) :=
  ⟨fun line => ⟨wordsBySlices?_eq line, exactlyPlaced line⟩, reprBySlices?_eq, storageBySlices?_eq⟩

end HeaderBindings
