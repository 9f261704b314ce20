import HeaderBindings.Text.Blank
import HeaderBindings.Text.ConstantCase

/-!
# Excluded declarations

Some declarations are withheld from bindings. An exclusion names a declaration
and covers the symbols derived from it: its functions, whose names start with the
declaration and two underscores, and its constants, whose names are spelled in
constant case and may be preceded by underscores.
-/

namespace HeaderBindings

open HeaderBindings.Text

/-- The exclusion of one declaration. -/
structure Exclusion where
  declaration : String
deriving DecidableEq, Repr

namespace Exclusion

/-- What the names of the declaration's functions start with. -/
def functionStem (e : Exclusion) : String :=
  e.declaration ++ "__"

/-- What the names of the declaration's constants start with. -/
def constantStem (e : Exclusion) : String :=
  constantCase e.declaration ++ "_"

def startsWith (symbol : List Char) (stem : String) : Bool :=
  stem.toList.isPrefixOf symbol

/-- Whether a symbol is derived from the declaration. -/
def covers (e : Exclusion) (symbol : String) : Bool :=
  let bare := symbol.toList.dropWhile (· == '_')
  symbol == e.declaration || startsWith symbol.toList e.functionStem ||
    startsWith bare e.constantStem || bare == (constantCase e.declaration).toList

end Exclusion

/-- Exclusions in the order in which they are tried. -/
structure ExclusionList where
  rules : List Exclusion
deriving DecidableEq, Repr

namespace ExclusionList

/-- The declarations that are always excluded. -/
def builtIn : List String :=
  ["EnumIgnored"]

def declarations (l : ExclusionList) : List String :=
  l.rules.map (·.declaration)

/-- Whether a declaration is excluded by its name. -/
def excludes (l : ExclusionList) (declaration : String) : Bool :=
  l.rules.any (·.declaration == declaration)

/-- The first exclusion that covers a symbol. -/
def covering? (l : ExclusionList) (symbol : String) : Option Exclusion :=
  l.rules.find? (·.covers symbol)

/-- Adds a declaration, without the blanks around it, unless it is blank or excluded already. -/
def add (l : ExclusionList) (name : String) : ExclusionList :=
  if isBlankText name || l.excludes (trim name) then l else ⟨l.rules ++ [⟨trim name⟩]⟩

/-- The built-in exclusions followed by further ones. -/
def withExtra (extra : List String) : ExclusionList :=
  extra.foldl add ⟨builtIn.map Exclusion.mk⟩

end ExclusionList

end HeaderBindings
