import HeaderBindings.Decimal.Integer

/-!
# Declarations

The declarations of a C header that bindings are generated for: enums, functions
and opaque types. Where a declaration stands does not belong to its definition.
-/

namespace HeaderBindings

/-- A position in a source file. -/
structure Location where
  fileName : String
  line : UInt32
  column : UInt32
deriving DecidableEq, Repr

namespace Location

/-- A location as text. The file name stands alone if line and column are unknown. -/
def text (l : Location) : String :=
  if l.line = 0 ∧ l.column = 0 then l.fileName
  else
    l.fileName ++ ":" ++ Decimal.ofNat l.line.toNat ++ ":" ++ Decimal.ofNat l.column.toNat

/-- Locations are ordered by file name, then by line, then by column. -/
def le (a b : Location) : Bool :=
  if a.fileName = b.fileName then
    if a.line = b.line then a.column ≤ b.column else a.line ≤ b.line
  else
    a.fileName < b.fileName

end Location

/-- The integer type that an enum declares. -/
structure TypeInfo where
  name : String
  size : UInt64
  signed : Option Bool
deriving DecidableEq, Repr

/-- A named value of an enum. -/
structure Enumerator where
  name : String
  value : Int64
deriving DecidableEq, Repr

structure EnumDecl where
  location : Option Location
  integerType : TypeInfo
  values : List Enumerator
deriving DecidableEq, Repr

inductive CallingConvention where
  | cdecl
  | stdcall
  | fastcall
deriving DecidableEq, Repr

def CallingConvention.name : CallingConvention → String
  | .cdecl => "cdecl"
  | .stdcall => "stdcall"
  | .fastcall => "fastcall"

def CallingConvention.all : List CallingConvention :=
  [.cdecl, .stdcall, .fastcall]

structure Parameter where
  name : String
  type : String
deriving DecidableEq, Repr

structure FunctionDecl where
  location : Option Location
  convention : CallingConvention
  returnType : String
  parameters : List Parameter
deriving DecidableEq, Repr

/-- A type of which only the size is known. -/
structure OpaqueDecl where
  location : Option Location
  size : UInt64
deriving DecidableEq, Repr

inductive Kind where
  | enum
  | function
  | opaqueType
deriving DecidableEq, Repr

/-- The capitalized name of a kind. -/
def Kind.title : Kind → String
  | .enum => "Enum"
  | .function => "Function"
  | .opaqueType => "OpaqueType"

def Kind.name : Kind → String
  | .enum => "enum"
  | .function => "function"
  | .opaqueType => "opaqueType"

inductive Decl where
  | enum (decl : EnumDecl)
  | function (decl : FunctionDecl)
  | opaqueType (decl : OpaqueDecl)
deriving DecidableEq, Repr

namespace Decl

def kind : Decl → Kind
  | enum _ => .enum
  | function _ => .function
  | opaqueType _ => .opaqueType

/-- A declaration without the place where it stands. -/
def definition : Decl → Decl
  | enum d => enum { d with location := none }
  | function d => function { d with location := none }
  | opaqueType d => opaqueType { d with location := none }

/-- Whether two declarations agree but for the places where they stand. -/
def sameDefinition (a b : Decl) : Bool :=
  a.definition == b.definition

end Decl

end HeaderBindings
