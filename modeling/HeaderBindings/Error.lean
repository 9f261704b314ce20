import HeaderBindings.Decimal.Integer
import HeaderBindings.Text.Quoted

/-!
# Errors

The causes for which an operation of the library fails, each with a code that
native callers know, a message and a longer text for reports.
-/

namespace HeaderBindings

open HeaderBindings.Text (quoted)

/-- Why an operation fails. -/
inductive Error where
  /-- A name stands for none of the known platforms. -/
  | unknownPlatform (name : String)
  /-- A value is none of the declared constants of an enum. -/
  | unrecognizedDiscriminant (typeName : String) (value : Int)
  /-- An artifact holds a symbol of a declaration that is to be withheld. -/
  | excludedDeclarationEmitted (declaration symbol : String)
  | invalidDocument (reason : String)
  /-- The file system refused. -/
  | io (details : String)
  /-- An aggregate was given another number of fields than its platform has. -/
  | layoutMismatch (platform : String) (expected actual : Nat)
deriving DecidableEq, Repr

namespace Error

/-- The name of the cause. -/
def kind : Error → String
  | unknownPlatform _ => "UnknownPlatform"
  | unrecognizedDiscriminant _ _ => "UnrecognizedDiscriminant"
  | excludedDeclarationEmitted _ _ => "ExcludedDeclarationEmitted"
  | invalidDocument _ => "InvalidDocument"
  | io _ => "Io"
  | layoutMismatch _ _ _ => "LayoutMismatch"

/-- The number that stands for the cause. -/
def code : Error → Nat
  | unknownPlatform _ => 3001
  | unrecognizedDiscriminant _ _ => 3002
  | excludedDeclarationEmitted _ _ => 3003
  | invalidDocument _ => 3004
  | io _ => 3005
  | layoutMismatch _ _ _ => 3006

def message : Error → String
  | unknownPlatform name => "Unknown platform: " ++ quoted name
  | unrecognizedDiscriminant typeName value =>
    "Unrecognized discriminant " ++ Decimal.ofInt value ++ " for " ++ typeName
  | excludedDeclarationEmitted declaration symbol =>
    "Excluded declaration " ++ declaration ++ " was emitted as symbol " ++ symbol
  | invalidDocument reason => "Invalid document: " ++ reason
  | io details => "I/O error: " ++ details
  | layoutMismatch platform expected actual =>
    "Opaque layout for " ++ platform ++ " has " ++ Decimal.ofNat expected ++ " fields (got " ++
      Decimal.ofNat actual ++ ")"

/-- What an error was built from, as labels and values. -/
def details : Error → List (String × String)
  | unknownPlatform name => [("name", quoted name)]
  | unrecognizedDiscriminant typeName value =>
    [("type_name", quoted typeName), ("value", Decimal.ofInt value)]
  | excludedDeclarationEmitted declaration symbol =>
    [("declaration", quoted declaration), ("symbol", quoted symbol)]
  | invalidDocument reason => [("reason", quoted reason)]
  | io text => [("details", quoted text)]
  | layoutMismatch platform expected actual =>
    [("platform", quoted platform), ("expected", Decimal.ofNat expected),
      ("actual", Decimal.ofNat actual)]

/-- The full text of an error: its cause with all details, its code and its message. -/
def report (e : Error) : String :=
  "FixtureError::" ++ e.kind ++ " \x7b " ++
    ", ".intercalate (e.details.map fun d => d.1 ++ ": " ++ d.2) ++ " \x7d (code " ++
    Decimal.ofNat e.code ++ "): " ++ e.message

end Error

end HeaderBindings
