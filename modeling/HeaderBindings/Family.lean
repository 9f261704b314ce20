import HeaderBindings.Declaration
import HeaderBindings.Error
import HeaderBindings.IntegerType
import HeaderBindings.Word

/-!
# Enum families

Nine enums with the same symbolic days and one more constant, the sentinel, that
forces the width of the storage. The sentinels of the two widest families stay
within 32 bits. Values of a family are words of its storage, declared or not;
only the checked decoding asks whether a value is declared.
-/

namespace HeaderBindings

/-- A family of enum values: one for each integer type, and one that is never bound. -/
inductive Family where
  | sint8
  | uint8
  | sint16
  | uint16
  | sint32
  | uint32
  | sint64
  | uint64
  | ignored
deriving DecidableEq, Repr

/-- What a family is made of. The storage of its values and the integer type that is declared for
them are given one beside the other. -/
structure FamilySpec where
  /-- The name of the enum. -/
  name : String
  /-- The name that reports give the type of a value. -/
  title : String
  /-- What the names of the day constants start with. -/
  constantStem : String
  storage : Primitive
  integerType : IntegerType
  /-- The constant that forces the width of the storage. -/
  sentinel : Enumerator

namespace Family

/-- The families in the order of the catalog. -/
def all : List Family :=
  [sint8, uint8, sint16, uint16, sint32, uint32, sint64, uint64, ignored]

def spec : Family → FamilySpec
  | sint8 =>
    ⟨"Enum_Force_SInt8", "EnumForceSInt8", "ENUM_FORCE_SINT8", .int8, ⟨.w8, true⟩,
      ⟨"_ENUM_FORCE_SINT8", 0x7F⟩⟩
  | uint8 =>
    ⟨"Enum_Force_UInt8", "EnumForceUInt8", "ENUM_FORCE_UINT8", .uint8, ⟨.w8, false⟩,
      ⟨"_ENUM_FORCE_UINT8", 0xFF⟩⟩
  | sint16 =>
    ⟨"Enum_Force_SInt16", "EnumForceSInt16", "ENUM_FORCE_SINT16", .int16, ⟨.w16, true⟩,
      ⟨"_ENUM_FORCE_SINT16", 0x7FFF⟩⟩
  | uint16 =>
    ⟨"Enum_Force_UInt16", "EnumForceUInt16", "ENUM_FORCE_UINT16", .uint16, ⟨.w16, false⟩,
      ⟨"_ENUM_FORCE_UINT16", 0xFFFF⟩⟩
  | sint32 =>
    ⟨"Enum_Force_SInt32", "EnumForceSInt32", "ENUM_FORCE_SINT32", .int32, ⟨.w32, true⟩,
      ⟨"_ENUM_FORCE_SINT32", 0x7FFFFFFF⟩⟩
  | uint32 =>
    ⟨"Enum_Force_UInt32", "EnumForceUInt32", "ENUM_FORCE_UINT32", .uint32, ⟨.w32, false⟩,
      ⟨"_ENUM_FORCE_UINT32", 0xFFFFFFFF⟩⟩
  | sint64 =>
    ⟨"Enum_Force_SInt64", "EnumForceSInt64", "ENUM_FORCE_SINT64", .int64, ⟨.w64, true⟩,
      ⟨"_ENUM_FORCE_SINT64", 0x7FFFFFFF⟩⟩
  | uint64 =>
    ⟨"Enum_Force_UInt64", "EnumForceUInt64", "ENUM_FORCE_UINT64", .uint64, ⟨.w64, false⟩,
      ⟨"_ENUM_FORCE_UINT64", 0xFFFFFFFF⟩⟩
  | ignored =>
    ⟨"EnumIgnored", "EnumIgnored", "ENUM_IGNORED", .int8, ⟨.w8, true⟩,
      ⟨"_ENUM_IGNORED_SINT8", 0x7F⟩⟩

def name (f : Family) : String :=
  f.spec.name

def title (f : Family) : String :=
  f.spec.title

def constantStem (f : Family) : String :=
  f.spec.constantStem

/-- The machine integer that values are stored in. -/
def storage (f : Family) : Primitive :=
  f.spec.storage

/-- The integer type that headers declare for the values. -/
def integerType (f : Family) : IntegerType :=
  f.spec.integerType

def sentinel (f : Family) : Enumerator :=
  f.spec.sentinel

def days (f : Family) : List Enumerator :=
  [⟨f.constantStem ++ "_DAY_UNKNOWN", 0⟩, ⟨f.constantStem ++ "_DAY_MONDAY", 1⟩,
    ⟨f.constantStem ++ "_DAY_TUESDAY", 2⟩, ⟨f.constantStem ++ "_DAY_WEDNESDAY", 3⟩,
    ⟨f.constantStem ++ "_DAY_THURSDAY", 4⟩, ⟨f.constantStem ++ "_DAY_FRIDAY", 5⟩]

def constants (f : Family) : List Enumerator :=
  f.days ++ [f.sentinel]

def ofName? (name : String) : Option Family :=
  all.find? (·.name == name)

end Family

/-- A value of a family, declared or not. -/
abbrev EnumValue (f : Family) := Word f.storage.bits f.storage.signed

namespace EnumValue

variable {f : Family}

/-- The value of an integer, if the storage has it. -/
def ofInt? (f : Family) (value : Int) : Option (EnumValue f) :=
  Word.ofInt? f.storage.bits f.storage.signed value

def text (e : EnumValue f) : String :=
  Decimal.ofInt (Word.value e)

/-- A value with its type, as reports show it. -/
def report (e : EnumValue f) : String :=
  f.title ++ "(" ++ text e ++ ")"

/-- The name of the constant that has a value. -/
def constantName? (e : EnumValue f) : Option String :=
  (f.constants.find? fun c => c.value.toInt == Word.value e).map (·.name)

/-- Decodes an integer that has to be one of the declared constants. -/
def decode (f : Family) (value : Int) : Except Error (EnumValue f) :=
  match ofInt? f value with
  | some e =>
    if f.constants.any fun c => c.value.toInt == value then .ok e
    else .error (.unrecognizedDiscriminant f.name value)
  | none => .error (.unrecognizedDiscriminant f.name value)

def sort (values : List (EnumValue f)) : List (EnumValue f) :=
  values.mergeSort fun a b => Word.value a ≤ Word.value b

end EnumValue

end HeaderBindings
