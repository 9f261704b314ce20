import HeaderBindings.Proofs.Document.Validity
import HeaderBindings.Proofs.IntegerType
import HeaderBindings.Proofs.IntegerType.Word
import HeaderBindings.Verification
import Mathlib.Data.List.Nodup

/-!
# Declared widths

A declared type means the integer type of its name; only if the name is none of the known ones, its
size and signedness decide (`declaredType?_eq_some_iff`). The values that are then reported are
those that truncation to the type would change, and a type with a larger range leads to fewer of
them (`declaredWidth_flags_truncated`).

Since a known name comes first, the declared size need not be large enough for the values of an
enum without findings: it is so for all enums of a declared type exactly if the type is not called
by the name of a wider one (`clean_width_suffices_iff`).
-/

namespace HeaderBindings

open HeaderBindings.Text HeaderBindings.Verification

namespace TypeInfo

/-- Whether a declared type means an integer type. -/
inductive Means (i : TypeInfo) (t : IntegerType) : Prop where
  | byName (named : trim i.name = t.name)
  /-- Size and signedness count only for a name that is not known. -/
  | bySize (unnamed : ∀ u : IntegerType, trim i.name ≠ u.name) (size : i.size.toNat = t.size)
      (signed : i.signed = some t.signed)

/-- Whether a declared type has the name of an integer type, or else the size of one and a
signedness. -/
def Known (i : TypeInfo) : Prop :=
  trim i.name ∈ ["int8_t", "uint8_t", "int16_t", "uint16_t", "int32_t", "uint32_t", "int64_t",
      "uint64_t"] ∨
    i.signed.isSome = true ∧ i.size.toNat ∈ [1, 2, 4, 8]

theorem declaredType?_eq_some_iff (i : TypeInfo) (t : IntegerType) :
    declaredType? i = some t ↔ i.Means t := by
  have unnamed : IntegerType.ofCName? i.name = none ↔ ∀ u : IntegerType, trim i.name ≠ u.name := by
    simp only [Option.eq_none_iff_forall_ne_some, ne_eq, IntegerType.ofCName?_eq_some_iff]
  rw [declaredType?, Option.orElse_eq_orElse, Option.orElse_eq_or, Option.or_eq_some_iff, unnamed,
    IntegerType.ofCName?_eq_some_iff, Option.bind_eq_some_iff]
  simp only [IntegerType.ofSize?_eq_some_iff]
  constructor
  · rintro (named | ⟨unnamed, signed, told, size, rfl⟩)
    · exact .byName named
    · exact .bySize unnamed size told
  · rintro (named | ⟨unnamed, size, signed⟩)
    · exact .inl named
    · exact .inr ⟨unnamed, t.signed, signed, size, rfl⟩

theorem Means.unique {i : TypeInfo} {t u : IntegerType} (one : i.Means t) (two : i.Means u) :
    t = u := by
  rw [← declaredType?_eq_some_iff] at one two
  exact Option.some.inj (one.symm.trans two)

theorem known_iff_exists_means (i : TypeInfo) : i.Known ↔ ∃ t, i.Means t := by
  have names : IntegerType.all.map (·.name) = ["int8_t", "uint8_t", "int16_t", "uint16_t",
      "int32_t", "uint32_t", "int64_t", "uint64_t"] := rfl
  rw [Known, ← names, IntegerType.mem_names_iff]
  constructor
  · intro known
    -- A known name decides also if the size and the signedness are those of another type.
    by_cases named : ∃ t : IntegerType, trim i.name = t.name
    · obtain ⟨t, same⟩ := named
      exact ⟨t, .byName same⟩
    · obtain ⟨signed, size⟩ := known.resolve_left named
      obtain ⟨signed, told⟩ := Option.isSome_iff_exists.1 signed
      have sizes : ∀ n ∈ [1, 2, 4, 8], ∃ w : Width, n = w.bytes := by
        simp only [List.forall_mem_cons]
        exact ⟨⟨.w8, rfl⟩, ⟨.w16, rfl⟩, ⟨.w32, rfl⟩, ⟨.w64, rfl⟩, nofun⟩
      obtain ⟨width, same⟩ := sizes _ size
      exact ⟨⟨width, signed⟩, .bySize (not_exists.1 named) same told⟩
  · rintro ⟨t, named | ⟨-, size, signed⟩⟩
    · exact .inl ⟨t, named⟩
    · refine .inr ⟨by rw [signed]; rfl, ?_⟩
      rw [size, IntegerType.size]
      cases t.width <;> decide

end TypeInfo

namespace Verification

theorem declaredWidth_of_means {decl : EnumDecl} {t : IntegerType}
    (means : decl.integerType.Means t) (name : String) : declaredWidth name decl =
      (tooWide t decl.values).map (.declaredTooNarrow name decl.integerType.name) := by
  rw [declaredWidth, (TypeInfo.declaredType?_eq_some_iff _ _).2 means]

theorem declaredWidth_of_unknown {decl : EnumDecl} (unknown : ¬ decl.integerType.Known)
    (name : String) :
    declaredWidth name decl = [.unknownIntegerType name decl.integerType.name] := by
  have undeclared : declaredType? decl.integerType = none := by
    rw [Option.eq_none_iff_forall_ne_some]
    intro t declared
    rw [TypeInfo.declaredType?_eq_some_iff] at declared
    exact unknown ((TypeInfo.known_iff_exists_means _).2 ⟨t, declared⟩)
  rw [declaredWidth, undeclared]

/-- The values that are too wide are those that truncation would change. -/
theorem tooWide_eq_truncated (t : IntegerType) (values : List Enumerator) : tooWide t values =
    values.filter fun v => t.truncate v.value.toInt ≠ v.value.toInt := by
  refine List.filter_congr fun v _ => ?_
  rw [Bool.eq_iff_iff, Bool.not_eq_true', decide_eq_true_iff, ne_eq, IntegerType.truncate_eq_iff,
    Bool.not_eq_true]

theorem tooWide_sublist {narrow wide : IntegerType}
    (within : ∀ v, narrow.holds v = true → wide.holds v = true) (values : List Enumerator) :
    (tooWide wide values).Sublist (tooWide narrow values) := by
  refine List.monotone_filter_right values fun v flagged => ?_
  rw [Bool.not_eq_true', Bool.eq_false_iff] at flagged ⊢
  exact fun held => flagged (within _ held)

/-- The values that findings report as too wide for the declared type, in their order. -/
def flaggedValues (found : List Anomaly) : List Enumerator :=
  found.filterMap fun
    | .declaredTooNarrow _ _ v => some v
    | _ => none

theorem flaggedValues_declaredWidth {decl : EnumDecl} {t : IntegerType}
    (means : decl.integerType.Means t) (name : String) :
    flaggedValues (declaredWidth name decl) = tooWide t decl.values := by
  rw [declaredWidth_of_means means, flaggedValues, List.filterMap_map]
  exact List.filterMap_some

theorem declaredWidth_eq_nil_iff (name : String) (decl : EnumDecl) : declaredWidth name decl = [] ↔
    ∃ t, decl.integerType.Means t ∧ ∀ v ∈ decl.values, t.holds v.value.toInt = true := by
  by_cases known : decl.integerType.Known
  · obtain ⟨t, means⟩ := (TypeInfo.known_iff_exists_means _).1 known
    rw [declaredWidth_of_means means, List.map_eq_nil_iff, tooWide, List.filter_eq_nil_iff]
    constructor
    · intro held
      exact ⟨t, means, fun v member => by simpa using held v member⟩
    · rintro ⟨u, other, held⟩ v member
      rw [means.unique other, held v member]
      exact Bool.false_ne_true
  · rw [declaredWidth_of_unknown known]
    refine iff_of_false (List.cons_ne_nil _ _) fun ⟨t, means, _⟩ => known ?_
    exact (TypeInfo.known_iff_exists_means _).2 ⟨t, means⟩

end Verification

/-- If a declared type is known, the findings about an enum are exactly its values that truncation
to the type would change, one for each and in their order; otherwise there is one finding that the
type is not known. Of two enums with the same values, the one whose type has the larger range has
no finding that the other does not have. -/
theorem declaredWidth_flags_truncated (name : String) (decl : EnumDecl) :
    (decl.integerType.Known → ∃ t, decl.integerType.Means t ∧
      declaredWidth name decl =
        (decl.values.filter fun v => t.truncate v.value.toInt ≠ v.value.toInt).map
          (.declaredTooNarrow name decl.integerType.name)) ∧
    (¬ decl.integerType.Known →
      declaredWidth name decl = [.unknownIntegerType name decl.integerType.name]) ∧
    ∀ (other : String) (wider : EnumDecl) (narrow wide : IntegerType),
      wider.values = decl.values → decl.integerType.Means narrow → wider.integerType.Means wide →
      (∀ v, narrow.holds v = true → wide.holds v = true) →
      (flaggedValues (declaredWidth other wider)).Sublist
        (flaggedValues (declaredWidth name decl)) := by
  refine ⟨fun known => ?_, fun unknown => declaredWidth_of_unknown unknown name, ?_⟩
  · obtain ⟨t, means⟩ := (TypeInfo.known_iff_exists_means _).1 known
    refine ⟨t, means, ?_⟩
    rw [declaredWidth_of_means means, tooWide_eq_truncated]
  · intro other wider narrow wide same meansNarrow meansWide within
    rw [flaggedValues_declaredWidth meansWide, flaggedValues_declaredWidth meansNarrow, same]
    exact tooWide_sublist within _

/-- A type known by its name, one known by its size, and one known by neither. -/
theorem declaredWidth_flags_truncated_samples :
    let values : List Enumerator := [⟨"HIGH", 300⟩, ⟨"LOW", -1⟩, ⟨"DAY", 7⟩, ⟨"WIDE", 70000⟩]
    let byName : EnumDecl := ⟨none, ⟨" uint8_t\t", 4, none⟩, values⟩
    let bySize : EnumDecl := ⟨none, ⟨"unsigned short", 2, some false⟩, values⟩
    let unknown : EnumDecl := ⟨none, ⟨"unsigned short", 3, some false⟩, values⟩
    byName.integerType.Known ∧ (∃ t, byName.integerType.Means t ∧
      declaredWidth "E" byName =
        (values.filter fun v => t.truncate v.value.toInt ≠ v.value.toInt).map
          (.declaredTooNarrow "E" " uint8_t\t")) ∧
    ¬ unknown.integerType.Known ∧
    declaredWidth "E" unknown = [.unknownIntegerType "E" "unsigned short"] ∧
    (flaggedValues (declaredWidth "E" bySize)).Sublist
      (flaggedValues (declaredWidth "E" byName)) := by
  intro values byName bySize unknown
  have known : byName.integerType.Known := .inl (by decide)
  have notKnown : ¬ unknown.integerType.Known := by
    rintro (named | ⟨-, sized⟩)
    · exact absurd named (by decide)
    · exact absurd sized (by decide)
  have unnamed : ∀ u : IntegerType, trim "unsigned short" ≠ u.name := fun u same =>
    absurd ((IntegerType.mem_names_iff _).2 ⟨u, same⟩) (by decide)
  have within : ∀ v, (⟨.w8, false⟩ : IntegerType).holds v = true →
      (⟨.w16, false⟩ : IntegerType).holds v = true := by
    intro v held
    rw [IntegerType.holds_iff] at held ⊢
    exact ⟨held.1, Int.le_trans held.2 (by decide)⟩
  have wider := (declaredWidth_flags_truncated "E" byName).2.2 "E" bySize ⟨.w8, false⟩
    ⟨.w16, false⟩ rfl (.byName (by decide)) (.bySize unnamed rfl rfl) within
  exact ⟨known, (declaredWidth_flags_truncated "E" byName).1 known, notKnown,
    (declaredWidth_flags_truncated "E" unknown).2.1 notKnown, wider⟩

namespace Verification

/-- Whether some bytes are enough for an integer, with a sign or without. -/
def FitsBytes (size : Nat) (v : Int) : Prop :=
  -(Nat.pow 2 (8 * size - 1) : Int) ≤ v ∧ v ≤ (Nat.pow 2 (8 * size) : Int) - 1

instance (size : Nat) (v : Int) : Decidable (FitsBytes size v) :=
  inferInstanceAs (Decidable (_ ∧ _))

/-- Whether an enum is valid and its declared width is not reported. -/
structure Clean (name : String) (decl : EnumDecl) : Prop where
  valid : Document.enumFault? name decl = none
  unreported : declaredWidth name decl = []

theorem fitsBytes_of_holds {t : IntegerType} {v : Int} (held : t.holds v = true) {size : Nat}
    (enough : t.size ≤ size) : FitsBytes size v := by
  rw [IntegerType.holds_iff, IntegerType.least, IntegerType.greatest] at held
  have bits : t.width.bits ≤ 8 * size := Nat.mul_le_mul_left 8 enough
  have whole : 2 ^ t.width.bits ≤ 2 ^ (8 * size) := Nat.pow_le_pow_right (by decide) bits
  have half : 2 ^ (t.width.bits - 1) ≤ 2 ^ (8 * size - 1) :=
    Nat.pow_le_pow_right (by decide) (by omega)
  have halfWhole : 2 ^ (t.width.bits - 1) ≤ 2 ^ (8 * size) :=
    Nat.pow_le_pow_right (by decide) (by omega)
  have positive := Nat.two_pow_pos (8 * size - 1)
  simp only [Nat.pow_eq] at held
  rw [FitsBytes, Nat.pow_eq, Nat.pow_eq]
  cases signed : t.signed with
  | true =>
    simp only [signed, if_true] at held
    omega
  | false =>
    simp only [signed, Bool.false_eq_true, if_false] at held
    omega

/-- An integer type holds the first integer that fewer bytes than its own are too few for. -/
theorem exists_held_not_fitsBytes {t : IntegerType} {size : Nat} (short : size < t.size) :
    ∃ v : Int64, t.holds v.toInt = true ∧ ¬ FitsBytes size v.toInt := by
  -- One more than what the bytes take without a sign: a power of two, still below half the range.
  have positive := Nat.two_pow_pos (8 * size)
  have bits : 8 * size + 8 ≤ t.width.bits := Nat.mul_le_mul_left 8 short
  have widest : t.width.bits ≤ 64 := by
    cases t.width <;> decide
  have small : 2 ^ (8 * size) < 2 ^ 63 := Nat.pow_lt_pow_right (by decide) (by omega)
  have half : 2 ^ (8 * size) < 2 ^ (t.width.bits - 1) :=
    Nat.pow_lt_pow_right (by decide) (by omega)
  have whole : 2 ^ (8 * size) < 2 ^ t.width.bits := Nat.pow_lt_pow_right (by decide) (by omega)
  refine ⟨Int64.ofNat (2 ^ (8 * size)), ?_⟩
  rw [Int64.toInt_ofNat_of_lt small]
  constructor
  · rw [IntegerType.holds_iff, IntegerType.least, IntegerType.greatest, Nat.pow_eq, Nat.pow_eq]
    cases t.signed with
    | true =>
      rw [if_pos rfl, if_pos rfl]
      omega
    | false =>
      rw [if_neg Bool.false_ne_true, if_neg Bool.false_ne_true]
      omega
  · rw [FitsBytes, Nat.pow_eq, Nat.pow_eq]
    omega

theorem Clean.exists_holds {name : String} {decl : EnumDecl} (clean : Clean name decl) :
    decl.integerType.size ≠ 0 ∧
      ∃ t, decl.integerType.Means t ∧ ∀ v ∈ decl.values, t.holds v.value.toInt = true := by
  obtain ⟨-, -, sized, -⟩ := (Document.enumFault?_eq_none_iff name decl).1 clean.valid
  exact ⟨sized, (declaredWidth_eq_nil_iff name decl).1 clean.unreported⟩

/-- An enum with one value is clean if its declared type has a size and means one that holds the
value. -/
theorem clean_of_means {i : TypeInfo} (sized : i.size ≠ 0) {t : IntegerType} (means : i.Means t)
    {v : Int64} (held : t.holds v.toInt = true) : Clean "E" ⟨none, i, [⟨"V", v⟩]⟩ where
  valid := by
    have visible : isBlankText "V" = false := by decide
    rw [Document.enumFault?_eq_none_iff]
    refine ⟨by decide, List.cons_ne_nil _ _, sized, fun value member => ?_, List.nodup_singleton _⟩
    rw [List.mem_singleton.1 member]
    exact visible
  unreported := by
    rw [declaredWidth_eq_nil_iff]
    refine ⟨t, means, fun value member => ?_⟩
    rw [List.mem_singleton.1 member]
    exact held

end Verification

/-- The values of a clean enum are held by the integer type that its declared type means. For all
clean enums of a declared type they also fit the declared size if and only if the type is not
called by the name of an integer type of more bytes. -/
theorem clean_width_suffices_iff (i : TypeInfo) :
    (∀ name decl, decl.integerType = i → Clean name decl →
      ∃ t, i.Means t ∧ ∀ v ∈ decl.values, t.holds v.value.toInt = true) ∧
    ((∀ name decl, decl.integerType = i → Clean name decl →
        ∀ v ∈ decl.values, FitsBytes i.size.toNat v.value.toInt) ↔
      (i.size ≠ 0 → ∀ t : IntegerType, trim i.name = t.name → t.size ≤ i.size.toNat)) := by
  refine ⟨?_, ?_, ?_⟩
  · rintro name decl rfl clean
    exact clean.exists_holds.2
  · intro fits sized t named
    by_contra wider
    obtain ⟨v, held, unfit⟩ := exists_held_not_fitsBytes (Nat.lt_of_not_le wider)
    have clean := clean_of_means sized (.byName named) held
    exact unfit (fits "E" _ rfl clean _ List.mem_cons_self)
  · rintro narrow name decl rfl clean v member
    obtain ⟨sized, t, means, held⟩ := clean.exists_holds
    refine fitsBytes_of_holds (held v member) ?_
    cases means with
    | byName named => exact narrow sized t named
    | bySize _ size _ => exact Nat.le_of_eq size.symm

/-- A type that is called by no known name, and one that is called by the name of a wider one. -/
theorem clean_width_suffices_samples :
    let short : EnumDecl := ⟨none, ⟨"unsigned short", 2, some false⟩, [⟨"TOP", 65535⟩]⟩
    let long : EnumDecl := ⟨none, ⟨"int64_t", 1, some true⟩, [⟨"BIG", 1000⟩]⟩
    Clean "Short" short ∧ FitsBytes 2 65535 ∧
      Clean "Long" long ∧ ∃ t, long.integerType.Means t ∧ t.holds 1000 = true := by
  intro short long
  have unnamed : ∀ t : IntegerType, trim "unsigned short" ≠ t.name := fun t same =>
    absurd ((IntegerType.mem_names_iff _).2 ⟨t, same⟩) (by decide)
  have shortClean : Clean "Short" short := ⟨by decide, by decide⟩
  have longClean : Clean "Long" long := ⟨by decide, by decide⟩
  have fits := (clean_width_suffices_iff short.integerType).2.2
    (fun _ t named => absurd named (unnamed t)) "Short" short rfl shortClean
  obtain ⟨t, means, held⟩ := (clean_width_suffices_iff long.integerType).1 "Long" long rfl longClean
  exact ⟨shortClean, fits _ List.mem_cons_self, longClean, t, means, held _ List.mem_cons_self⟩

/-- The name of a wide type hides that the declared size is too small. -/
theorem clean_enum_exceeds_declared_size :
    let decl : EnumDecl := ⟨none, ⟨"int64_t", 1, some true⟩, [⟨"BIG", 1000⟩]⟩
    Clean "Big" decl ∧
      ∃ v ∈ decl.values, ¬ FitsBytes decl.integerType.size.toNat v.value.toInt := by
  intro decl
  exact ⟨⟨by decide, by decide⟩, _, List.mem_cons_self, by decide⟩

end HeaderBindings
