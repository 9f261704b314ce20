import HeaderBindings.Family

/-!
# Exported functions

Every enum family exports two functions: one prints a value, the other returns
it unchanged. Integers that the storage of the family does not have are refused.
-/

namespace HeaderBindings

/-- What printing a value did: whether the value was taken, and the lines written. -/
structure Printed where
  accepted : Bool
  lines : List String
deriving DecidableEq, Repr

/-- What the native print function did: whether the value was taken, and the text written to the
standard output. -/
structure PrintedNatively where
  accepted : Bool
  output : String
deriving DecidableEq, Repr

structure Export where
  name : String
  printSymbol : String
  returnSymbol : String
  print : Int → Printed
  printNatively : Int → PrintedNatively
  identity : Int → Option Int

namespace Family

def printSymbol (f : Family) : String :=
  f.name ++ "__print_" ++ f.name

/-- The symbol of the function that returns a value. The headers spell one of them without an
underscore. -/
def returnSymbol : Family → String
  | sint8 => "Enum_ForceSInt8__return_Enum_Force_SInt8"
  | f => f.name ++ "__return_" ++ f.name

def exported (f : Family) : Export where
  name := f.name
  printSymbol := f.printSymbol
  returnSymbol := f.returnSymbol
  print v :=
    match EnumValue.ofInt? f v with
    | some e => ⟨true, [EnumValue.text e]⟩
    | none => ⟨false, []⟩
  printNatively v :=
    match EnumValue.ofInt? f v with
    | some e => ⟨true, EnumValue.text e ++ "\n"⟩
    | none => ⟨false, ""⟩
  identity v := (EnumValue.ofInt? f v).map Word.value

end Family

/-- The families in the order of their exports. -/
def Export.families : List Family :=
  [.sint8, .sint16, .sint32, .sint64, .uint8, .uint16, .uint32, .uint64, .ignored]

def Export.all : List Export :=
  families.map Family.exported

def Export.find? (name : String) : Option Export :=
  Export.all.find? (·.name == name)

end HeaderBindings
