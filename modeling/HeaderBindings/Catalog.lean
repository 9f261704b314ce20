import HeaderBindings.Document.Basic
import HeaderBindings.Exclusion
import HeaderBindings.Export
import HeaderBindings.Layout
import HeaderBindings.Log

/-!
# Catalog

The declarations of the built-in headers: nine enums with their exported
functions, and the platform-specific aggregate with its exported function. The
document of a platform withholds what is excluded, and every function whose
symbol is covered by an exclusion or that takes or returns something excluded.
-/

namespace HeaderBindings

/-- An enum of the catalog and its exported functions. -/
structure CatalogEntry where
  name : String
  header : String
  integerType : IntegerType
  constants : List Enumerator
  exported : Export

namespace CatalogEntry

/-- The last constant of an entry. -/
def sentinel? (e : CatalogEntry) : Option Enumerator :=
  e.constants.getLast?

def location (e : CatalogEntry) (line : UInt32) : Location :=
  ⟨e.header, line, 1⟩

def enumDecl (e : CatalogEntry) : EnumDecl where
  location := some (e.location 3)
  integerType :=
    ⟨e.integerType.name, UInt64.ofNat e.integerType.size, some e.integerType.signed⟩
  values := e.constants

def functions (e : CatalogEntry) : List (String × FunctionDecl) :=
  [(e.exported.printSymbol, ⟨some (e.location 13), .cdecl, "void", [⟨"e", e.name⟩]⟩),
    (e.exported.returnSymbol, ⟨some (e.location 18), .cdecl, e.name, [⟨"e", e.name⟩]⟩)]

end CatalogEntry

namespace Catalog

def directory : Family → String
  | .ignored => "ignored"
  | _ => "enums"

/-- The entry of a family, whose functions are looked up by the name of the enum. -/
def entryOf? (f : Family) : Option CatalogEntry := do
  let exported ← Export.find? f.name
  return ⟨f.name, directory f ++ "/" ++ f.name ++ ".h", f.integerType, f.constants, exported⟩

/-- The entries of the families that have exported functions. -/
def entries : List CatalogEntry :=
  Family.all.filterMap entryOf?

def find? (name : String) : Option CatalogEntry :=
  entries.find? (·.name == name)

def rootHeader : String := "ffi_fixtures.h"

def aggregateHeader : String :=
  "opaque_types/" ++ aggregateName ++ ".h"

def aggregateDecl (p : Platform) : OpaqueDecl :=
  ⟨some ⟨aggregateHeader, 3, 1⟩, UInt64.ofNat p.aggregateSize⟩

def aggregateFunction : String × FunctionDecl :=
  (totalSymbol, ⟨some ⟨aggregateHeader, 39, 1⟩, .cdecl, "int", [⟨"data", aggregateName⟩]⟩)

def keptEntries (x : ExclusionList) : List CatalogEntry :=
  entries.filter fun e => !x.excludes e.name

def withheldEntries (x : ExclusionList) : List CatalogEntry :=
  entries.filter fun e => x.excludes e.name

/-- Whether a function is kept out of bindings by its symbol or by its types. -/
def touchesExcluded (x : ExclusionList) (symbol : String) (f : FunctionDecl) : Bool :=
  (x.covering? symbol).isSome || x.excludes f.returnType ||
    f.parameters.any fun p => x.excludes p.type

/-- The functions of the declarations that are not excluded. -/
def keptFunctions (x : ExclusionList) : List (String × FunctionDecl) :=
  (keptEntries x).flatMap (·.functions) ++
    if x.excludes aggregateName then [] else [aggregateFunction]

def document (p : Platform) (x : ExclusionList) : Document where
  fileName := rootHeader
  platformRequested := some p
  platformActual := some p
  functions :=
    (NameMap.ofList (keptFunctions x)).filter fun symbol f => !touchesExcluded x symbol f
  enums := NameMap.ofList ((keptEntries x).map fun e => (e.name, e.enumDecl))
  opaqueTypes :=
    if x.excludes aggregateName then .empty
    else NameMap.ofList [(aggregateName, aggregateDecl p)]
  excluded :=
    sortedNames ((withheldEntries x).map (·.name) ++
      if x.excludes aggregateName then [aggregateName] else [])

/-- What is logged while the document of a platform is built. -/
def documentLog (x : ExclusionList) : List Log.Record :=
  (withheldEntries x).map fun e =>
    .plain .info ("[Catalog] Withholding excluded declaration " ++ e.name)

end Catalog

end HeaderBindings
