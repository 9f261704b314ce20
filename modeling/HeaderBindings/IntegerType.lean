import HeaderBindings.Text.Blank

/-!
# Integer types

The eight integer types of fixed width as headers declare them, the values each
of them holds, and the names they have in headers and in bindings.
-/

namespace HeaderBindings

inductive Width where
  | w8
  | w16
  | w32
  | w64
deriving DecidableEq, Repr

namespace Width

def all : List Width :=
  [w8, w16, w32, w64]

def bytes : Width → Nat
  | w8 => 1
  | w16 => 2
  | w32 => 4
  | w64 => 8

def bits (w : Width) : Nat :=
  8 * w.bytes

end Width

structure IntegerType where
  width : Width
  signed : Bool
deriving DecidableEq, Repr

namespace IntegerType

/-- The integer types: from narrow to wide, the signed one of each width first. -/
def all : List IntegerType :=
  Width.all.flatMap fun w => [⟨w, true⟩, ⟨w, false⟩]

def name (t : IntegerType) : String :=
  match t.width, t.signed with
  | .w8, true => "int8_t"
  | .w8, false => "uint8_t"
  | .w16, true => "int16_t"
  | .w16, false => "uint16_t"
  | .w32, true => "int32_t"
  | .w32, false => "uint32_t"
  | .w64, true => "int64_t"
  | .w64, false => "uint64_t"

def size (t : IntegerType) : Nat :=
  t.width.bytes

def least (t : IntegerType) : Int :=
  if t.signed then -(Nat.pow 2 (t.width.bits - 1) : Int) else 0

def greatest (t : IntegerType) : Int :=
  if t.signed then (Nat.pow 2 (t.width.bits - 1) : Int) - 1 else (Nat.pow 2 t.width.bits : Int) - 1

def holds (t : IntegerType) (value : Int) : Bool :=
  t.least ≤ value && value ≤ t.greatest

/-- The narrowest integer type of a signedness that holds a value. -/
def narrowest? (value : Int) (signed : Bool) : Option IntegerType :=
  (Width.all.map fun w => (⟨w, signed⟩ : IntegerType)).find? (·.holds value)

/-- The integer type of a C name, which may have blanks around it. -/
def ofCName? (name : String) : Option IntegerType :=
  all.find? fun t => t.name == Text.trim name

def ofSize? (size : Nat) (signed : Bool) : Option IntegerType :=
  all.find? fun t => t.size == size && t.signed == signed

/-- The names that bindings in other languages give an integer type. -/
def bindingNames (t : IntegerType) : List String :=
  match t.width, t.signed with
  | .w8, true => ["i8", "sbyte", "c_schar"]
  | .w8, false => ["u8", "byte", "c_uchar"]
  | .w16, true => ["i16", "short", "c_short"]
  | .w16, false => ["u16", "ushort", "c_ushort"]
  | .w32, true => ["i32", "int", "c_int"]
  | .w32, false => ["u32", "uint", "c_uint"]
  | .w64, true => ["i64", "long", "c_longlong"]
  | .w64, false => ["u64", "ulong", "c_ulonglong"]

/-- The integer type of a name that a binding uses: one of the binding names, or else a C name. -/
def ofBindingName? (name : String) : Option IntegerType :=
  match all.find? fun t => t.bindingNames.contains name with
  | some t => some t
  | none => ofCName? name

end IntegerType

end HeaderBindings
