import HeaderBindings.Capture
import HeaderBindings.Proofs.Catalog.Entry
import HeaderBindings.Proofs.Decimal.Canonical
import HeaderBindings.Proofs.IntegerType

/-!
# What the exported functions take

The catalog declares an integer type for each enum, and the exported functions convert to the words
of the storage, which is chosen apart from that type. As the two agree (`Family.holds_iff_inRange`),
each function takes exactly the integers that the declared type holds, returns them unchanged and
writes their canonical decimal text, and it does nothing with any other integer
(`exports_take_what_type_holds`).
-/

namespace HeaderBindings

/-- Whether the exported functions of an entry do with every integer what its declared integer type
says. -/
structure CatalogEntry.Faithful (e : CatalogEntry) : Prop where
  identity : ∀ v, e.exported.identity v = if e.integerType.holds v then some v else none
  /-- One line is added for an integer that is held, and none otherwise. -/
  print : ∀ (c : Capture) v, c.print e.exported v =
    if e.integerType.holds v then (true, ⟨c.held ++ [Decimal.ofInt v]⟩) else (false, c)
  printNatively : ∀ v, e.exported.printNatively v =
    if e.integerType.holds v then ⟨true, Decimal.ofInt v ++ "\n"⟩ else ⟨false, ""⟩
  /-- The line is the only canonical text that is read as the integer. -/
  line : ∀ v, e.integerType.holds v = true → ∀ s : String,
    Decimal.Canonical s.toList ∧ Decimal.readInt128? s = some v ↔ s = Decimal.ofInt v

theorem IntegerType.fits128_of_holds {t : IntegerType} {v : Int} (held : t.holds v = true) :
    Decimal.fits128 v = true := by
  have bounds : ∀ t ∈ IntegerType.all,
      -(Nat.pow 2 127 : Int) ≤ t.least ∧ t.greatest < (Nat.pow 2 127 : Int) := by decide
  obtain ⟨lower, upper⟩ := bounds t t.mem_all
  obtain ⟨above, below⟩ := (t.holds_iff v).1 held
  rw [Decimal.fits128, Bool.and_eq_true, decide_eq_true_iff, decide_eq_true_iff]
  exact ⟨Int.le_trans lower above, Int.lt_of_le_of_lt below upper⟩

theorem IntegerType.canonical_line_iff {t : IntegerType} {v : Int} (held : t.holds v = true)
    (s : String) :
    Decimal.Canonical s.toList ∧ Decimal.readInt128? s = some v ↔ s = Decimal.ofInt v := by
  rw [Decimal.readInt128?_eq_some_iff, and_iff_left (t.fits128_of_holds held)]
  exact Decimal.isTextOf_iff s v

namespace Family

variable (f : Family) (v : Int)

theorem identity_exported :
    f.exported.identity v = if f.integerType.holds v then some v else none := by
  rcases EnumValue.ofInt?_cases f v with ⟨held, e, stored, value⟩ | ⟨refused, unstored⟩
  · simp [exported, held, stored, value]
  · simp [exported, refused, unstored]

theorem print_exported : f.exported.print v =
    if f.integerType.holds v then ⟨true, [Decimal.ofInt v]⟩ else ⟨false, []⟩ := by
  rcases EnumValue.ofInt?_cases f v with ⟨held, e, stored, value⟩ | ⟨refused, unstored⟩
  · simp [exported, held, stored, EnumValue.text, value]
  · simp [exported, refused, unstored]

theorem printNatively_exported : f.exported.printNatively v =
    if f.integerType.holds v then ⟨true, Decimal.ofInt v ++ "\n"⟩ else ⟨false, ""⟩ := by
  rcases EnumValue.ofInt?_cases f v with ⟨held, e, stored, value⟩ | ⟨refused, unstored⟩
  · simp [exported, held, stored, EnumValue.text, value]
  · simp [exported, refused, unstored]

theorem capture_print_exported (c : Capture) : c.print f.exported v =
    if f.integerType.holds v then (true, ⟨c.held ++ [Decimal.ofInt v]⟩) else (false, c) := by
  rw [Capture.print, print_exported]
  cases f.integerType.holds v with
  | true => rfl
  | false => rfl

end Family

/-- Every entry of the catalog is exported under its name, and its functions take exactly the
integers that the declared integer type holds. -/
theorem exports_take_what_type_holds {e : CatalogEntry} (entry : e ∈ Catalog.entries) :
    Export.find? e.name = some e.exported ∧ e.Faithful := by
  obtain ⟨f, rfl⟩ := (Catalog.mem_entries_iff e).1 entry
  exact ⟨f.find?_name, {
    identity := f.identity_exported
    print := fun c v => f.capture_print_exported v c
    printNatively := f.printNatively_exported
    line := fun _ held => f.integerType.canonical_line_iff held }⟩

/-- The greatest integer of 16 bits, the one above it and the one below zero. -/
theorem exports_take_what_type_holds_samples :
    let e := Catalog.entryOf .uint16
    e ∈ Catalog.entries ∧ Export.find? "Enum_Force_UInt16" = some e.exported ∧
      e.exported.identity 65535 = some 65535 ∧ e.exported.identity 65536 = none ∧
      (∀ c : Capture, c.print e.exported 65535 = (true, ⟨c.held ++ [Decimal.ofInt 65535]⟩)) ∧
      (∀ c : Capture, c.print e.exported (-1) = (false, c)) ∧
      Decimal.readInt128? (Decimal.ofInt 65535) = some 65535 ∧
      e.exported.printNatively 65536 = ⟨false, ""⟩ := by
  intro e
  have entry : e ∈ Catalog.entries := Catalog.entryOf_mem _
  obtain ⟨found, faithful⟩ := exports_take_what_type_holds entry
  have held : e.integerType.holds 65535 = true := by decide
  exact ⟨entry, found, faithful.identity 65535, faithful.identity 65536,
    fun c => faithful.print c 65535, fun c => faithful.print c (-1),
    ((faithful.line 65535 held _).2 rfl).2, faithful.printNatively 65536⟩

end HeaderBindings
