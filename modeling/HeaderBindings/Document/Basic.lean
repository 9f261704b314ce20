import HeaderBindings.Declaration
import HeaderBindings.NameMap
import HeaderBindings.Platform

/-!
# Documents

A document lists the declarations that one platform sees. A shared document
lists the declarations that several platforms have in common.
-/

namespace HeaderBindings

/-- The declarations that one platform sees. -/
structure Document where
  fileName : String
  /-- The platform the document was asked for, if known. -/
  platformRequested : Option Platform
  /-- The platform the document was made on, if known. -/
  platformActual : Option Platform
  functions : NameMap FunctionDecl
  enums : NameMap EnumDecl
  opaqueTypes : NameMap OpaqueDecl
  /-- Declarations that are present in the headers and withheld from bindings. -/
  excluded : List String
deriving DecidableEq

/-- The declarations that several platforms share. -/
structure SharedDocument where
  platforms : List Platform
  functions : NameMap FunctionDecl
  enums : NameMap EnumDecl
  opaqueTypes : NameMap OpaqueDecl
deriving DecidableEq

namespace Document

def empty : Document :=
  ⟨"", none, none, .empty, .empty, .empty, []⟩

/-- The platform of a document: the requested one, or else the actual one. -/
def platform? (d : Document) : Option Platform :=
  d.platformRequested <|> d.platformActual

/-- Whether neither platform is known. -/
def isUnknownPlatform (d : Document) : Bool :=
  d.platformRequested.isNone && d.platformActual.isNone

/-- All declarations: enums, functions and opaque types, each in the order of their names. A name
that is declared as several kinds appears once for each. -/
def declarations (d : Document) : List (String × Decl) :=
  d.enums.entries.map (fun e => (e.1, .enum e.2)) ++
    d.functions.entries.map (fun e => (e.1, .function e.2)) ++
    d.opaqueTypes.entries.map (fun e => (e.1, .opaqueType e.2))

end Document

namespace SharedDocument

def empty : SharedDocument :=
  ⟨[], .empty, .empty, .empty⟩

def size (d : SharedDocument) : Nat :=
  d.enums.size + d.functions.size + d.opaqueTypes.size

def insert (d : SharedDocument) (name : String) : Decl → SharedDocument
  | .enum decl => { d with enums := d.enums.insert name decl }
  | .function decl => { d with functions := d.functions.insert name decl }
  | .opaqueType decl => { d with opaqueTypes := d.opaqueTypes.insert name decl }

end SharedDocument

end HeaderBindings
