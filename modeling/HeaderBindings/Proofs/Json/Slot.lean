import HeaderBindings.Proofs.Json.Decoding

/-!
# One field of a record

A record is read from an object by the names of its fields or from an array by their positions. A
slot is a record in JSON with a gap where the value of one field stands. Whatever is put into the
gap, the rest of the record is read in the same way: if the record can be read with one value, then
with any other value it is read up to that field, and refused exactly if the field refuses the
value (`Shape.Sets.decode_slot`).
-/

namespace HeaderBindings.Json

/-- A record in JSON with a gap for the value of the field that has a name and a position. The name
may be spelt with escapes, and other members may stand anywhere around it. -/
inductive Slot (name : String) (position : Nat) : (Value → Value) → Prop where
  | member (before behind : List Member) (key : Literal) (named : literalText key = .ok name) :
      Slot name position fun v => .object (before ++ .mk key v :: behind)
  | item (front behind : List Value) (placed : front.length = position) :
      Slot name position fun v => .array (front ++ v :: behind)

namespace Shape

variable {ρ α : Type} {s : Shape ρ} {f : Field ρ} {decode : Decoder α} {put : ρ → α → ρ}

/-- Whether a field of a shape sets a part of the record that no other field touches. -/
structure Sets (s : Shape ρ) (f : Field ρ) (decode : Decoder α) (put : ρ → α → ρ) : Prop where
  distinct : (s.fields.map (·.name)).Nodup
  listed : f ∈ s.fields
  reads : ∀ v record, f.read v record = (decode v).map (put record)
  overwrites : ∀ record a b, put (put record a) b = put record b
  apart : ∀ g ∈ s.fields, g.name ≠ f.name → ∀ v record a,
    g.read v (put record a) = (g.read v record).map fun next => put next a

/-- Members behind the one of the field are read as if the field had not been set. -/
theorem Sets.readMembers_put (sets : s.Sets f decode put) {seen : List String}
    (past : f.name ∈ seen) (record : ρ) (a : α) (members : List Member) :
    s.readMembers seen (put record a) members =
      (s.readMembers seen record members).map fun last => put last a := by
  induction members generalizing seen record with
  | nil =>
    unfold readMembers
    split
    · rfl
    · rfl
  | cons m rest ih =>
    cases m with
    | broken fault => rfl
    | mk key value =>
      cases spelt : literalText key with
      | error e =>
        rw [s.readMembers_misspelt spelt, s.readMembers_misspelt spelt]
        rfl
      | ok name =>
        cases found : s.fields.find? (·.name == name) with
        | none =>
          rw [s.readMembers_skipped spelt found, s.readMembers_skipped spelt found]
          exact ih past record
        | some g =>
          rw [s.readMembers_found spelt found, s.readMembers_found spelt found]
          cases repeated : seen.contains name with
          | true => rfl
          | false =>
            have other : g.name ≠ f.name := by
              have same : g.name = name := by simpa using List.find?_some found
              intro again
              rw [← same, again] at repeated
              simp [past] at repeated
            rw [sets.apart g (List.mem_of_find?_eq_some found) other]
            cases g.read value record with
            | error e => rfl
            | ok next => exact ih (List.mem_cons_of_mem _ past) next

/-- Items for other fields are read as if the field had not been set. -/
theorem Sets.readItems_put (sets : s.Sets f decode put) {fields : List (Field ρ)}
    (others : ∀ g ∈ fields, g ∈ s.fields ∧ g.name ≠ f.name) (position : Nat) (record : ρ) (a : α)
    (items : List Value) :
    s.readItems position (put record a) fields items =
      (s.readItems position record fields items).map fun last => put last a := by
  induction fields generalizing position record items with
  | nil =>
    cases items with
    | nil => rfl
    | cons v rest => rfl
  | cons g fields ih =>
    obtain ⟨⟨listed, other⟩, later⟩ := List.forall_mem_cons.1 others
    cases items with
    | nil =>
      unfold readItems
      cases g.mayBeAbsent with
      | true => exact ih later _ record []
      | false => rfl
    | cons v rest =>
      unfold readItems
      rw [sets.apart g listed other]
      cases g.read v record with
      | error e => rfl
      | ok next => exact ih later _ next rest

/-- Setting the field and reading the rest: the value that was set first is overwritten, and the
rest is read alike. -/
theorem Sets.read_bind (sets : s.Sets f decode put) {rest : ρ → Except DecodeError ρ}
    (frame : ∀ record a, rest (put record a) = (rest record).map fun last => put last a)
    {record last : ρ} {w : Value} (read : (f.read w record).bind rest = .ok last) (v : Value) :
    (f.read v record).bind rest = (decode v).map (put last) := by
  rw [sets.reads] at read ⊢
  cases first : decode w with
  | error e =>
    rw [first] at read
    cases read
  | ok a =>
    rw [first] at read
    change rest (put record a) = .ok last at read
    cases decode v with
    | error e => rfl
    | ok b =>
      change rest (put record b) = .ok (put last b)
      rw [← sets.overwrites record a b, frame, read]
      rfl

/-- The member of the field, by induction on the members before it, which are read alike. -/
theorem Sets.readMembers_slot (sets : s.Sets f decode put) {key : Literal}
    (named : literalText key = .ok f.name) {w : Value} {behind : List Member} {last : ρ} (v : Value)
    (before : List Member) (seen : List String) (record : ρ)
    (read : s.readMembers seen record (before ++ .mk key w :: behind) = .ok last) :
    s.readMembers seen record (before ++ .mk key v :: behind) = (decode v).map (put last) := by
  induction before generalizing seen record with
  | nil =>
    have found := find?_name sets.distinct sets.listed
    rw [List.nil_append, s.readMembers_found named found] at read ⊢
    split at read
    · cases read
    next unseen =>
      rw [if_neg unseen]
      refine sets.read_bind (fun next a => ?_) read v
      exact sets.readMembers_put List.mem_cons_self next a behind
  | cons m before ih =>
    rw [List.cons_append] at read ⊢
    cases m with
    | broken fault => cases read
    | mk other value =>
      cases spelt : literalText other with
      | error e =>
        rw [s.readMembers_misspelt spelt] at read
        cases read
      | ok name =>
        cases found : s.fields.find? (·.name == name) with
        | none =>
          rw [s.readMembers_skipped spelt found] at read ⊢
          exact ih seen record read
        | some g =>
          rw [s.readMembers_found spelt found] at read ⊢
          split at read
          · cases read
          next unseen =>
            rw [if_neg unseen]
            cases middle : g.read value record with
            | error e =>
              rw [middle] at read
              cases read
            | ok next =>
              rw [middle] at read
              exact ih _ next read

/-- The item of the field, by induction on the fields and items before it. -/
theorem Sets.readItems_slot (sets : s.Sets f decode put) {later : List (Field ρ)}
    (others : ∀ g ∈ later, g ∈ s.fields ∧ g.name ≠ f.name) {w : Value} {behind : List Value}
    {last : ρ} (v : Value) (earlier : List (Field ρ)) (front : List Value)
    (aligned : front.length = earlier.length) (position : Nat) (record : ρ)
    (read : s.readItems position record (earlier ++ f :: later) (front ++ w :: behind) = .ok last) :
    s.readItems position record (earlier ++ f :: later) (front ++ v :: behind) =
      (decode v).map (put last) := by
  induction earlier generalizing front position record with
  | nil =>
    have nothing : front = [] := List.length_eq_zero_iff.1 aligned
    subst nothing
    refine sets.read_bind (fun next a => ?_) read v
    exact sets.readItems_put others (position + 1) next a behind
  | cons g earlier ih =>
    cases front with
    | nil => cases aligned
    | cons item front =>
      rw [List.cons_append, List.cons_append, readItems] at read ⊢
      cases middle : g.read item record with
      | error e =>
        rw [middle] at read
        cases read
      | ok next =>
        rw [middle] at read
        exact ih front (Nat.succ.inj aligned) _ next read

/-- A record that is read with one value in the gap is read with any other value up to its field. -/
theorem Sets.decode_slot (sets : s.Sets f decode put) {position : Nat}
    (placed : s.fields[position]? = some f) {slot : Value → Value}
    (gap : Slot f.name position slot) {w : Value} {last : ρ} (read : s.decode (slot w) = .ok last)
    (v : Value) : s.decode (slot v) = (decode v).map (put last) := by
  cases gap with
  | member before behind key named => exact sets.readMembers_slot named v before [] s.blank read
  | item front behind aligned =>
    obtain ⟨within, same⟩ := List.getElem?_eq_some_iff.1 placed
    have fields : s.fields = s.fields.take position ++ f :: s.fields.drop (position + 1) := by
      rw [← same, List.getElem_cons_drop, List.take_append_drop]
    have others : ∀ g ∈ s.fields.drop (position + 1), g ∈ s.fields ∧ g.name ≠ f.name := by
      intro g later
      refine ⟨List.mem_of_mem_drop later, fun repeated => ?_⟩
      have distinct := sets.distinct
      rw [fields, List.map_append, List.map_cons] at distinct
      have fresh := (List.nodup_cons.1 (List.nodup_append.1 distinct).2.1).1
      exact fresh (List.mem_map.2 ⟨g, later, repeated⟩)
    have counted : front.length = (s.fields.take position).length := by
      rw [aligned, List.length_take, Nat.min_eq_left (Nat.le_of_lt within)]
    unfold Shape.decode at read ⊢
    dsimp only at read ⊢
    rw [fields] at read ⊢
    exact sets.readItems_slot others v _ front counted 0 s.blank read

end Shape

end HeaderBindings.Json
