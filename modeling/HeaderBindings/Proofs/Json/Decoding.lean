import HeaderBindings.Json.Decoder
import HeaderBindings.Proofs.Json.Literal
import HeaderBindings.Proofs.Json.Numeral
import HeaderBindings.Proofs.NameMap

/-!
# Decoders that undo a way of writing

`Inverts decode write` says that `decode` takes what `write` makes of a value back to that
value. It holds for texts and integers of fixed width, and passes from items to arrays and
from values to maps.

A record is read from an object by its shape. `readMembers_eq_foldlM` says what an object
with one member for each of some fields does, in whatever order they stand: the fields are
read one after another into the blank record. `decode_zipWith` is its case for a record
that is written in the order of its fields, some of which may be left out.
-/

namespace HeaderBindings.Json

open HeaderBindings.Decimal

/-- Whether a decoder undoes a way of writing. -/
def Decoder.Inverts {α : Type} (decode : Decoder α) (write : α → Value) : Prop :=
  ∀ a, decode (write a) = .ok a

@[simp] theorem literalText_encode (s : String) : literalText (.encode s) = .ok s := by
  rw [literalText, Literal.decode_encode]

theorem string_inverts : Decoder.Inverts string .ofString :=
  literalText_encode

section Integers

theorem integerIn_ofInt {least greatest i : Int} (type : String)
    (within : least ≤ i ∧ i ≤ greatest) (low : -0x8000000000000000 ≤ least)
    (high : greatest < 0x10000000000000000) : integerIn type least greatest (.ofInt i) = .ok i := by
  have value : (Numeral.ofInt i).value? = some (.integer i) :=
    value?_ofInt (Int.le_trans low within.1) (Int.lt_of_le_of_lt within.2 high)
  simp only [Value.ofInt, integerIn, value]
  rw [if_pos within]

theorem int64_inverts : Decoder.Inverts int64 fun i => .ofInt i.toInt := by
  intro i
  have within : -(2 ^ 63 : Int) ≤ i.toInt ∧ i.toInt ≤ 2 ^ 63 - 1 :=
    ⟨Int64.le_toInt i, Int.le_sub_one_of_lt (Int64.toInt_lt i)⟩
  have read := integerIn_ofInt "i64" within (by decide) (by decide)
  exact (congrArg (Except.map Int64.ofInt) read).trans (by simp [Except.map])

theorem size_inverts : Decoder.Inverts size fun n => .ofInt n.toNat := by
  intro n
  have bound := UInt64.toNat_lt n
  have within : (0 : Int) ≤ n.toNat ∧ (n.toNat : Int) ≤ 2 ^ 64 - 1 := by omega
  have read := integerIn_ofInt "usize" within (by decide) (by decide)
  exact (congrArg (Except.map fun i : Int => UInt64.ofNat i.toNat) read).trans (by simp [Except.map])

theorem uint32_inverts : Decoder.Inverts uint32 fun n => .ofInt n.toNat := by
  intro n
  have bound := UInt32.toNat_lt n
  have within : (0 : Int) ≤ n.toNat ∧ (n.toNat : Int) ≤ 2 ^ 32 - 1 := by omega
  have read := integerIn_ofInt "u32" within (by decide) (by decide)
  exact (congrArg (Except.map fun i : Int => UInt32.ofNat i.toNat) read).trans (by simp [Except.map])

end Integers

section Combinators

variable {α : Type} {decode : Decoder α} {write : α → Value}

theorem mapM_map_of_inverts {β γ ε : Type} {read : β → Except ε γ} {make : γ → β}
    (inverts : ∀ c, read (make c) = .ok c) (items : List γ) :
    (items.map make).mapM read = .ok items := by
  induction items with
  | nil => rfl
  | cons head rest ih =>
    simp only [List.map_cons, List.mapM_cons, inverts, ih]
    rfl

theorem list_inverts (inverts : decode.Inverts write) :
    Decoder.Inverts (list decode) fun items => .array (items.map write) := by
  intro items
  exact mapM_map_of_inverts inverts items

theorem optional_of_ne_null {v : Value} (present : v ≠ .null) :
    optional decode v = (decode v).map some := by
  cases v <;> first | rfl | exact absurd rfl present

/-- A value that is missing is written as null and read as such. -/
theorem optional_inverts (inverts : decode.Inverts write) (present : ∀ a, write a ≠ .null) :
    Decoder.Inverts (optional decode) fun a => (a.map write).getD .null := by
  intro a
  cases a with
  | none => rfl
  | some a =>
    simp only [Option.map_some, Option.getD_some, optional_of_ne_null (present a), inverts a]
    rfl

theorem nameMap_inverts (inverts : decode.Inverts write) :
    Decoder.Inverts (nameMap decode) fun m =>
      .object (m.entries.map fun e => member e.1 (write e.2)) := by
  intro m
  have each : ∀ e : String × α, entry decode (member e.1 (write e.2)) = .ok e := by
    intro e
    simp only [member, entry, literalText_encode, inverts e.2]
    rfl
  have members : (m.entries.map fun e => member e.1 (write e.2)).mapM (entry decode) =
      .ok m.entries := mapM_map_of_inverts each m.entries
  simp only [nameMap, members, Except.map, NameMap.ofList_entries]

end Combinators

namespace Shape

variable {ρ : Type} (s : Shape ρ)

/-- A member for a field, its key spelt in any way. -/
theorem readMembers_found {key : Literal} {name : String}
    (spelt : literalText key = .ok name) {g : Field ρ}
    (found : s.fields.find? (·.name == name) = some g) (seen : List String) (record : ρ) (v : Value)
    (rest : List Member) :
    s.readMembers seen record (.mk key v :: rest) =
      if seen.contains name then .error (.duplicateField name)
      else (g.read v record).bind fun next => s.readMembers (name :: seen) next rest := by
  rw [readMembers, spelt]
  simp only [Bind.bind, Except.bind, found]

/-- A member that is no field, its key spelt in any way. -/
theorem readMembers_skipped {key : Literal} {name : String}
    (spelt : literalText key = .ok name) (unknown : s.fields.find? (·.name == name) = none)
    (seen : List String) (record : ρ) (v : Value) (rest : List Member) :
    s.readMembers seen record (.mk key v :: rest) = s.readMembers seen record rest := by
  rw [readMembers, spelt]
  simp only [Bind.bind, Except.bind, unknown]

theorem readMembers_misspelt {key : Literal} {e : DecodeError}
    (misspelt : literalText key = .error e) (seen : List String) (record : ρ) (v : Value)
    (rest : List Member) : s.readMembers seen record (.mk key v :: rest) = .error e := by
  rw [readMembers, misspelt]
  rfl

/-- A member for a field that has not been read yet. -/
theorem readMembers_cons {seen : List String} {key : String} {f : Field ρ}
    (found : s.fields.find? (·.name == key) = some f) (fresh : key ∉ seen) (record : ρ)
    (value : Value) (rest : List Member) :
    s.readMembers seen record (member key value :: rest) =
      (f.read value record).bind fun next => s.readMembers (key :: seen) next rest := by
  rw [member, s.readMembers_found (literalText_encode key) found, if_neg]
  simpa using fresh

/-- A member that is no field is skipped, whatever its value. -/
theorem readMembers_cons_of_unknown {key : String} (unknown : ∀ f ∈ s.fields, f.name ≠ key)
    (seen : List String) (record : ρ) (value : Value) (rest : List Member) :
    s.readMembers seen record (member key value :: rest) = s.readMembers seen record rest := by
  apply s.readMembers_skipped (literalText_encode key)
  rw [List.find?_eq_none]
  intro f listed
  simpa using unknown f listed

/-- Members for different fields are read one after another, in whatever order they stand. -/
theorem readMembers_eq_foldlM {entries : List (Field ρ × Value)} (seen : List String) (record : ρ)
    (found : ∀ e ∈ entries, s.fields.find? (·.name == e.1.name) = some e.1)
    (fresh : ∀ e ∈ entries, e.1.name ∉ seen) (distinct : (entries.map (·.1.name)).Nodup)
    (complete : ∀ f ∈ s.fields, f.mayBeAbsent = false →
      f.name ∈ seen ∨ f.name ∈ entries.map (·.1.name)) :
    s.readMembers seen record (entries.map fun e => member e.1.name e.2) =
      entries.foldlM (fun record e => e.1.read e.2 record) record := by
  induction entries generalizing seen record with
  | nil =>
    have missing : s.fields.find? (fun f => !f.mayBeAbsent && !seen.contains f.name) = none := by
      rw [List.find?_eq_none]
      intro f member
      have present := complete f member
      simp only [List.map_nil, List.not_mem_nil, or_false] at present
      simpa using present
    rw [List.map_nil, readMembers, missing]
    rfl
  | cons e rest ih =>
    obtain ⟨different, restDistinct⟩ := List.nodup_cons.1 distinct
    rw [List.map_cons, s.readMembers_cons (found e List.mem_cons_self) (fresh e List.mem_cons_self),
      List.foldlM_cons]
    have step : ∀ next, s.readMembers (e.1.name :: seen) next
        (rest.map fun e => member e.1.name e.2) =
          rest.foldlM (fun record e => e.1.read e.2 record) next := by
      intro next
      apply ih
      · exact fun d later => found d (List.mem_cons_of_mem e later)
      · intro d later repeated
        rcases List.mem_cons.1 repeated with same | earlier
        · exact different (List.mem_map.2 ⟨d, later, same⟩)
        · exact fresh d (List.mem_cons_of_mem e later) earlier
      · exact restDistinct
      · intro f member required
        have present := complete f member required
        simp only [List.map_cons, List.mem_cons] at present ⊢
        grind
    exact congrArg (Except.bind (e.1.read e.2 record)) (funext step)

theorem find?_name {fields : List (Field ρ)} (distinct : (fields.map (·.name)).Nodup) {f : Field ρ}
    (member : f ∈ fields) : fields.find? (·.name == f.name) = some f := by
  induction fields with
  | nil => cases member
  | cons g rest ih =>
    obtain ⟨different, restDistinct⟩ := List.nodup_cons.1 distinct
    rcases List.mem_cons.1 member with rfl | later
    · simp
    · have other : g.name ≠ f.name := fun same =>
        different (List.mem_map.2 ⟨f, later, same.symm⟩)
      rw [List.find?_cons_of_neg (by simpa using other), ih restDistinct later]

/-- A record that is written in the order of its fields, without some that may be absent. -/
theorem decode_zipWith {fields : List (Field ρ)} (values : List Value)
    (written : fields.Sublist s.fields) (distinct : (s.fields.map (·.name)).Nodup)
    (complete : ∀ f ∈ s.fields, f.mayBeAbsent = false → f.name ∈ fields.map (·.name))
    (length : fields.length = values.length) :
    s.decode (.object (List.zipWith (fun f v => member f.name v) fields values)) =
      (fields.zip values).foldlM (fun record e => e.1.read e.2 record) s.blank := by
  have names : (fields.zip values).map (·.1.name) = fields.map (·.name) := by
    rw [← List.map_fst_zip (Nat.le_of_eq length), List.map_map, List.map_fst_zip (Nat.le_of_eq length)]
    rfl
  rw [decode, ← List.map_uncurry_zip_eq_zipWith]
  refine s.readMembers_eq_foldlM [] s.blank ?_ ?_ ?_ ?_
  · intro e member
    exact find?_name distinct (written.subset (List.of_mem_zip member).1)
  · exact fun e _ => List.not_mem_nil
  · rw [names]
    exact distinct.sublist (written.map _)
  · rw [names]
    exact fun f member required => .inr (complete f member required)

end Shape

end HeaderBindings.Json
