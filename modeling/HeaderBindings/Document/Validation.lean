import HeaderBindings.Document.Basic

/-!
# Validation of documents

A document is valid if no name in it is blank, every enum has at least one value,
a size and pairwise different value names, every function returns something and
every opaque type has a size. The fault that is reported is the first one: enums
before functions before opaque types, each in the order of their names.
-/

namespace HeaderBindings

open HeaderBindings.Text

/-- What is wrong with a document. -/
inductive Fault where
  | blankName (kind : Kind)
  | noValues (enum : String)
  | noSize (enum : String)
  | blankValue (enum : String)
  | duplicateValue (value enum : String)
  | noReturnType (function : String)
  | zeroSize (opaqueType : String)
deriving DecidableEq, Repr

def Kind.words : Kind → String
  | .enum => "enum"
  | .function => "function"
  | .opaqueType => "opaque type"

def Fault.message : Fault → String
  | blankName kind => kind.words ++ " name cannot be empty"
  | noValues name => "enum " ++ name ++ " must declare at least one value"
  | noSize name => "enum " ++ name ++ " has invalid integer size"
  | blankValue name => "enum " ++ name ++ " has a value with an empty name"
  | duplicateValue value name => "duplicate enum value " ++ value ++ " in " ++ name
  | noReturnType name => "function " ++ name ++ " must declare a return type"
  | zeroSize name => "opaque type " ++ name ++ " must have non-zero size"

namespace Document

/-- The first fault among the values of an enum, after those whose names have been seen. -/
def valuesFault? (enum : String) (seen : List String) : List Enumerator → Option Fault
  | [] => none
  | v :: rest =>
    if isBlankText v.name then some (.blankValue enum)
    else if seen.contains v.name then some (.duplicateValue v.name enum)
    else valuesFault? enum (v.name :: seen) rest

def enumFault? (name : String) (decl : EnumDecl) : Option Fault :=
  if isBlankText name then some (.blankName .enum)
  else if decl.values.isEmpty then some (.noValues name)
  else if decl.integerType.size = 0 then some (.noSize name)
  else valuesFault? name [] decl.values

def functionFault? (name : String) (decl : FunctionDecl) : Option Fault :=
  if isBlankText name then some (.blankName .function)
  else if isBlankText decl.returnType then some (.noReturnType name)
  else none

def opaqueFault? (name : String) (decl : OpaqueDecl) : Option Fault :=
  if isBlankText name then some (.blankName .opaqueType)
  else if decl.size = 0 then some (.zeroSize name)
  else none

/-- The first fault of a document. -/
def fault? (d : Document) : Option Fault :=
  (d.enums.entries.findSome? fun e => enumFault? e.1 e.2) <|>
    (d.functions.entries.findSome? fun e => functionFault? e.1 e.2) <|>
    (d.opaqueTypes.entries.findSome? fun e => opaqueFault? e.1 e.2)

/-- Refuses a document that has a fault. -/
def validate (d : Document) : Except Error Unit :=
  match d.fault? with
  | some fault => .error (.invalidDocument fault.message)
  | none => .ok ()

end Document

end HeaderBindings
