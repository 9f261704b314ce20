import HeaderBindings.Json.Basic
import HeaderBindings.NameMap
import HeaderBindings.Text.Quoted

/-!
# Decoding JSON

A decoder reads a value of a certain type from a JSON value. It stops at the
first fault in the order of the text, be it one of form or of content. Records
are read by their shape, from an object by the names of the fields or from an
array by their positions.
-/

namespace HeaderBindings.Json

open HeaderBindings.Decimal HeaderBindings.Text

/-- What stands where something else was expected. -/
inductive Found where
  | null
  | boolean (value : Bool)
  | integer (value : Int)
  | floating (negative : Bool) (magnitude : Binary64)
  | string (value : String)
  | sequence
  | map
deriving DecidableEq, Repr

/-- Why a text cannot be decoded. -/
inductive DecodeError where
  /-- The text is no JSON. -/
  | malformed (error : GrammarError)
  /-- A value has another type than expected. -/
  | invalidType (found : Found) (expected : String)
  /-- An integer is outside the expected range. -/
  | invalidValue (found : Int) (expected : String)
  /-- An array ends before a field that has to be present. -/
  | invalidLength (length : Nat) (record : String) (fields : Nat)
  | missingField (name : String)
  | duplicateField (name : String)
  | unknownVariant (name : String) (variants : List String)
  /-- An array holds more items than there are fields. -/
  | trailingItems
  /-- Neither a string nor an object of one member stands for a variant. -/
  | expectedValue
  | numberOutOfRange
  | literal (fault : LiteralFault)
  /-- A text was understood and refused, for the reason given. -/
  | refused (reason : String)
deriving DecidableEq, Repr

def Found.text : Found → String
  | .null => "null"
  | .boolean b => "boolean `" ++ (if b then "true" else "false") ++ "`"
  | .integer i => "integer `" ++ Decimal.ofInt i ++ "`"
  | .floating negative x =>
    "floating point `" ++ (if negative then "-" else "") ++
      String.ofList (Style.report.magnitude x) ++ "`"
  | .string s => "string " ++ quoted s
  | .sequence => "sequence"
  | .map => "map"

def LiteralFault.message : LiteralFault → String
  | .unfinishedPair => "unexpected end of hex escape"
  | .loneSurrogate => "lone leading surrogate in hex escape"

/-- A name as messages quote it. -/
def backquoted (name : String) : String :=
  "`" ++ name ++ "`"

def DecodeError.message : DecodeError → String
  | .malformed error => error.message
  | .invalidType found expected => "invalid type: " ++ found.text ++ ", expected " ++ expected
  | .invalidValue i expected =>
    "invalid value: integer `" ++ Decimal.ofInt i ++ "`, expected " ++ expected
  | .invalidLength n record fields =>
    "invalid length " ++ Decimal.ofNat n ++ ", expected struct " ++ record ++ " with " ++
      Decimal.ofNat fields ++ " elements"
  | .missingField name => "missing field " ++ backquoted name
  | .duplicateField name => "duplicate field " ++ backquoted name
  | .unknownVariant name variants =>
    "unknown variant " ++ backquoted name ++ ", expected one of " ++
      ", ".intercalate (variants.map backquoted)
  | .trailingItems => "trailing characters"
  | .expectedValue => "expected value"
  | .numberOutOfRange => "number out of range"
  | .literal fault => fault.message
  | .refused reason => reason

/-- Reads a value of type `α`. -/
abbrev Decoder (α : Type) := Value → Except DecodeError α

/-- The text of a literal, or its fault. -/
def literalText (l : Literal) : Except DecodeError String :=
  match l.decode with
  | .ok s => .ok s
  | .error fault => .error (.literal fault)

def BrokenLiteral.error (b : BrokenLiteral) : DecodeError :=
  match b.fault? with
  | some fault => .literal fault
  | none => .malformed b.problem.error

/-- The error of what stands where a value has to start. -/
def LexicalFault.error : LexicalFault → DecodeError
  | .numeral true => .malformed .endInValue
  | .literal broken => broken.error
  | fault => .malformed fault.passedError

def Fault.error (f : Fault) : DecodeError :=
  if f.passed then
    .malformed f.passedError
  else
    match f.due, f.standing with
    | .nextItem, .token .closeBracket => .malformed .trailingComma
    | .nextKey, .token .closeBrace => .malformed .trailingComma
    | .nextKey, .textEnd => .malformed .endInValue
    | .value, .unreadable fault => fault.error
    | .firstItem, .unreadable fault => fault.error
    | .nextItem, .unreadable fault => fault.error
    | .firstKey, .unreadable (.literal broken) => broken.error
    | .nextKey, .unreadable (.literal broken) => broken.error
    | _, _ => .malformed f.passedError

/-- Refuses a value that does not have the expected type. What is found has to be read first, and
may have a fault of its own. -/
def unexpected {α : Type} (expected : String) (v : Value) : Except DecodeError α :=
  match v with
  | .null => .error (.invalidType .null expected)
  | .bool b => .error (.invalidType (.boolean b) expected)
  | .numeral n =>
    match n.value? with
    | none => .error .numberOutOfRange
    | some (.integer i) => .error (.invalidType (.integer i) expected)
    | some (.floating negative x) => .error (.invalidType (.floating negative x) expected)
  | .literal l =>
    match literalText l with
    | .error e => .error e
    | .ok s => .error (.invalidType (.string s) expected)
  | .array _ => .error (.invalidType .sequence expected)
  | .object _ => .error (.invalidType .map expected)
  | .broken fault => .error fault.error

def string : Decoder String
  | .literal l => literalText l
  | v => unexpected "a string" v

def boolean : Decoder Bool
  | .bool b => .ok b
  | v => unexpected "a boolean" v

/-- Reads an integer between two bounds, both included. -/
def integerIn (type : String) (least greatest : Int) : Decoder Int
  | .numeral n =>
    match n.value? with
    | some (.integer i) =>
      if least ≤ i ∧ i ≤ greatest then .ok i else .error (.invalidValue i type)
    | _ => unexpected type (.numeral n)
  | v => unexpected type v

def int64 : Decoder Int64 := fun v =>
  (integerIn "i64" (-(Nat.pow 2 63 : Int)) ((Nat.pow 2 63 : Int) - 1) v).map Int64.ofInt

def size : Decoder UInt64 := fun v =>
  (integerIn "usize" 0 ((Nat.pow 2 64 : Int) - 1) v).map fun i => UInt64.ofNat i.toNat

def uint32 : Decoder UInt32 := fun v =>
  (integerIn "u32" 0 ((Nat.pow 2 32 : Int) - 1) v).map fun i => UInt32.ofNat i.toNat

def uint8 : Decoder UInt8 := fun v =>
  (integerIn "u8" 0 ((Nat.pow 2 8 : Int) - 1) v).map fun i => UInt8.ofNat i.toNat

/-- Reads a value that may be null. -/
def optional {α : Type} (decode : Decoder α) : Decoder (Option α)
  | .null => .ok none
  | v => (decode v).map some

def list {α : Type} (decode : Decoder α) : Decoder (List α)
  | .array items => items.mapM decode
  | v => unexpected "a sequence" v

/-- Reads a member, its key before its value. -/
def entry {α : Type} (decode : Decoder α) : Member → Except DecodeError (String × α)
  | .mk key value => do
    let name ← literalText key
    let value ← decode value
    return (name, value)
  | .broken fault => .error fault.error

/-- Reads an object as a map. Every value has to be readable; the last one of a name counts. -/
def nameMap {α : Type} (decode : Decoder α) : Decoder (NameMap α)
  | .object members => (members.mapM (entry decode)).map NameMap.ofList
  | v => unexpected "a map" v

def variantName {α : Type} (variants : List (String × α)) (l : Literal) :
    Except DecodeError α := do
  let name ← literalText l
  match variants.lookup name with
  | some value => .ok value
  | none => .error (.unknownVariant name (variants.map (·.1)))

/-- Whether a misspelt word or numeral stands at a place. -/
def Standing.isMisspelt : Standing → Bool
  | .unreadable (.word _) => true
  | .unreadable (.numeral _) => true
  | _ => false

/-- The error of a fault in place of a named value. A misspelt word or numeral where the value has
to start is refused by its first character. -/
def variantFault (f : Fault) : DecodeError :=
  if f.due.startsValue && f.standing.isMisspelt then .expectedValue else f.error

/-- Refuses a token where the name of a variant has to stand. -/
def unexpectedName {α : Type} : Token → Except DecodeError α
  | .null => unexpected "variant identifier" .null
  | .bool b => unexpected "variant identifier" (.bool b)
  | .numeral n => unexpected "variant identifier" (.numeral n)
  | .openBracket => unexpected "variant identifier" (.array [])
  | .openBrace => unexpected "variant identifier" (.object [])
  | _ => .error .expectedValue

/-- Refuses what stands where the name of a variant has to stand. -/
def nameFault {α : Type} : Standing → Except DecodeError α
  | .textEnd => .error (.malformed .endInValue)
  | .token t => unexpectedName t
  | .unreadable fault => .error fault.error

/-- Whether nothing follows the member that names a variant. -/
def onlyMember : List Member → Except DecodeError Unit
  | [] => .ok ()
  | .broken ⟨.memberEnd, .textEnd, _⟩ :: _ => .error (.malformed .endInObject)
  | _ => .error .expectedValue

/-- Reads one of several named values: its name, or an object with its name for the only key and
null for the value. -/
def variant {α : Type} (variants : List (String × α)) : Decoder α
  | .literal l => variantName variants l
  | .object (.mk key value :: others) => do
    let named ← variantName variants key
    match value with
    | .null => (onlyMember others).map fun _ => named
    | v => unexpected "unit" v
  | .object (.broken fault :: _) => nameFault fault.standing
  | .broken fault => .error (variantFault fault)
  | _ => .error .expectedValue

/-- A field of a record: how a value read for it is put into the record. A field that may be absent
keeps what the blank record holds for it. -/
structure Field (ρ : Type) where
  name : String
  mayBeAbsent : Bool
  read : Value → ρ → Except DecodeError ρ

def Field.of {ρ α : Type} (name : String) (mayBeAbsent : Bool) (decode : Decoder α)
    (put : ρ → α → ρ) : Field ρ :=
  ⟨name, mayBeAbsent, fun v record => (decode v).map (put record)⟩

/-- A field that has to be present. -/
def Field.required {ρ α : Type} (name : String) (decode : Decoder α) (put : ρ → α → ρ) : Field ρ :=
  .of name false decode put

/-- A field that may be absent. -/
def Field.defaulted {ρ α : Type} (name : String) (decode : Decoder α) (put : ρ → α → ρ) : Field ρ :=
  .of name true decode put

/-- The shape of a record: the name messages give it, the record to start from and its fields in
order. -/
structure Shape (ρ : Type) where
  name : String
  blank : ρ
  fields : List (Field ρ)

namespace Shape

variable {ρ : Type}

/-- Reads the members of an object in their order. Members that are no fields are skipped, though
their keys have to be readable. `seen` holds the names of the fields read so far. -/
def readMembers (s : Shape ρ) (seen : List String) (record : ρ) :
    List Member → Except DecodeError ρ
  | [] =>
    match s.fields.find? fun f => !f.mayBeAbsent && !seen.contains f.name with
    | some f => .error (.missingField f.name)
    | none => .ok record
  | .broken fault :: _ => .error fault.error
  | .mk key value :: rest => do
    let name ← literalText key
    match s.fields.find? (·.name == name) with
    | none => s.readMembers seen record rest
    | some f =>
      if seen.contains name then
        .error (.duplicateField name)
      else
        let next ← f.read value record
        s.readMembers (name :: seen) next rest

/-- The error of an item that stands behind the last field. -/
def extraItem : Value → DecodeError
  | .broken ⟨.itemEnd, .textEnd, _⟩ => .malformed .endInList
  | .broken ⟨.nextItem, .token .closeBracket, _⟩ => .malformed .trailingComma
  | _ => .trailingItems

/-- Reads the items of an array into the fields that are left, the first of which has the given
position. -/
def readItems (s : Shape ρ) (position : Nat) (record : ρ) :
    List (Field ρ) → List Value → Except DecodeError ρ
  | [], [] => .ok record
  | [], v :: _ => .error (extraItem v)
  | f :: fields, [] =>
    if f.mayBeAbsent then s.readItems (position + 1) record fields []
    else .error (.invalidLength position s.name s.fields.length)
  | f :: fields, v :: rest => do
    let next ← f.read v record
    s.readItems (position + 1) next fields rest

def decode (s : Shape ρ) : Decoder ρ
  | .object members => s.readMembers [] s.blank members
  | .array items => s.readItems 0 s.blank s.fields items
  | v => unexpected ("struct " ++ s.name) v

end Shape

/-- Reads a text, which has to hold nothing behind the value. -/
def decodeText {α : Type} (decode : Decoder α) (s : String) : Except DecodeError α := do
  let r := Reading.ofText s
  let value ← decode r.value
  match r.ending with
  | .complete => .ok value
  | .trailing => .error (.malformed .trailingCharacters)
  | .broken fault => .error fault.error

end HeaderBindings.Json
