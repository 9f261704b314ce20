import HeaderBindings.Document.Validation
import HeaderBindings.Json.Decoder
import HeaderBindings.Json.Printer

/-!
# Documents in JSON

Writing gives the fields in a fixed order and leaves out locations and
signedness that are not known; an unknown platform is written as such. Reading
takes fields in any order and most of them may be absent.
-/

namespace HeaderBindings

open HeaderBindings.Json HeaderBindings.Text

/-- A member that is left out if there is no value. -/
def optionalMember {α : Type} (key : String) (json : α → Json.Value) : Option α → List Member
  | some value => [member key (json value)]
  | none => []

def NameMap.json {α : Type} (m : NameMap α) (json : α → Json.Value) : Json.Value :=
  .object (m.entries.map fun e => member e.1 (json e.2))

def Location.json (l : Location) : Json.Value :=
  .object [member "fileName" (.ofString l.fileName), member "line" (.ofInt l.line.toNat),
    member "column" (.ofInt l.column.toNat)]

def Location.shape : Shape Location where
  name := "CLocation"
  blank := ⟨"", 0, 0⟩
  fields :=
    [.required "fileName" Json.string fun r v => { r with fileName := v },
      .required "line" uint32 fun r v => { r with line := v },
      .defaulted "column" uint32 fun r v => { r with column := v }]

def TypeInfo.json (t : TypeInfo) : Json.Value :=
  .object ([member "name" (.ofString t.name), member "sizeOf" (.ofInt t.size.toNat)] ++
    optionalMember "isSigned" Value.bool t.signed)

def TypeInfo.shape : Shape TypeInfo where
  name := "CTypeInfo"
  blank := ⟨"", 0, none⟩
  fields :=
    [.required "name" Json.string fun r v => { r with name := v },
      .required "sizeOf" Json.size fun r v => { r with size := v },
      .defaulted "isSigned" (optional boolean) fun r v => { r with signed := v }]

def Enumerator.json (e : Enumerator) : Json.Value :=
  .object [member "name" (.ofString e.name), member "value" (.ofInt e.value.toInt)]

def Enumerator.shape : Shape Enumerator where
  name := "CEnumValue"
  blank := ⟨"", 0⟩
  fields :=
    [.required "name" Json.string fun r v => { r with name := v },
      .required "value" int64 fun r v => { r with value := v }]

def EnumDecl.json (d : EnumDecl) : Json.Value :=
  .object (optionalMember "location" Location.json d.location ++
    [member "typeInteger" d.integerType.json,
      member "values" (.array (d.values.map Enumerator.json))])

def EnumDecl.shape : Shape EnumDecl where
  name := "CEnum"
  blank := ⟨none, ⟨"", 0, none⟩, []⟩
  fields :=
    [.defaulted "location" (optional Location.shape.decode) fun r v => { r with location := v },
      .required "typeInteger" TypeInfo.shape.decode fun r v => { r with integerType := v },
      .required "values" (list Enumerator.shape.decode) fun r v => { r with values := v }]

def CallingConvention.decode : Decoder CallingConvention :=
  variant (CallingConvention.all.map fun c => (c.name, c))

def Parameter.json (p : Parameter) : Json.Value :=
  .object [member "name" (.ofString p.name), member "type" (.ofString p.type)]

def Parameter.shape : Shape Parameter where
  name := "CFunctionParameter"
  blank := ⟨"", ""⟩
  fields :=
    [.required "name" Json.string fun r v => { r with name := v },
      .required "type" Json.string fun r v => { r with type := v }]

def FunctionDecl.json (d : FunctionDecl) : Json.Value :=
  .object (optionalMember "location" Location.json d.location ++
    [member "callingConvention" (.ofString d.convention.name),
      member "returnType" (.ofString d.returnType),
      member "parameters" (.array (d.parameters.map Parameter.json))])

def FunctionDecl.shape : Shape FunctionDecl where
  name := "CFunction"
  blank := ⟨none, .cdecl, "", []⟩
  fields :=
    [.defaulted "location" (optional Location.shape.decode) fun r v => { r with location := v },
      .defaulted "callingConvention" CallingConvention.decode
        fun r v => { r with convention := v },
      .required "returnType" Json.string fun r v => { r with returnType := v },
      .defaulted "parameters" (list Parameter.shape.decode) fun r v => { r with parameters := v }]

def OpaqueDecl.json (d : OpaqueDecl) : Json.Value :=
  .object (optionalMember "location" Location.json d.location ++
    [member "sizeOf" (.ofInt d.size.toNat)])

def OpaqueDecl.shape : Shape OpaqueDecl where
  name := "COpaqueType"
  blank := ⟨none, 0⟩
  fields :=
    [.defaulted "location" (optional Location.shape.decode) fun r v => { r with location := v },
      .required "sizeOf" Json.size fun r v => { r with size := v }]

def Decl.json : Decl → Json.Value
  | .enum d => d.json
  | .function d => d.json
  | .opaqueType d => d.json

/-- A platform that may be unknown, in JSON. -/
def Platform.optionalJson (p : Option Platform) : Json.Value :=
  .ofString ((p.map Platform.name).getD "unknown")

/-- The platform that a text of a document names. A blank text and the word for an unknown platform
name none. -/
def Platform.ofDocumentText (s : String) : Except Error (Option Platform) :=
  let name := trim s
  if name == "" || equalIgnoringCase name "unknown" then .ok none
  else (parse name).map some

def Platform.decodeOptional : Decoder (Option Platform) := fun v => do
  match ← optional Json.string v with
  | none => .ok none
  | some s =>
    match Platform.ofDocumentText s with
    | .ok p => .ok p
    | .error e => .error (.refused e.report)

/-- Reads the name of a platform, which has to be exact. -/
def Platform.decode : Decoder Platform :=
  variant (Platform.all.map fun p => (p.name, p))

def Document.json (d : Document) : Json.Value :=
  .object [member "fileName" (.ofString d.fileName),
    member "platformRequested" (Platform.optionalJson d.platformRequested),
    member "platformActual" (Platform.optionalJson d.platformActual),
    member "functions" (d.functions.json FunctionDecl.json),
    member "enums" (d.enums.json EnumDecl.json),
    member "opaqueTypes" (d.opaqueTypes.json OpaqueDecl.json),
    member "excluded" (.array (d.excluded.map Value.ofString))]

def Document.shape : Shape Document where
  name := "CAbstractSyntaxTree"
  blank := .empty
  fields :=
    [.defaulted "fileName" Json.string fun r v => { r with fileName := v },
      .defaulted "platformRequested" Platform.decodeOptional
        fun r v => { r with platformRequested := v },
      .defaulted "platformActual" Platform.decodeOptional fun r v => { r with platformActual := v },
      .defaulted "functions" (nameMap FunctionDecl.shape.decode)
        fun r v => { r with functions := v },
      .defaulted "enums" (nameMap EnumDecl.shape.decode) fun r v => { r with enums := v },
      .defaulted "opaqueTypes" (nameMap OpaqueDecl.shape.decode)
        fun r v => { r with opaqueTypes := v },
      .defaulted "excluded" (list Json.string) fun r v => { r with excluded := v }]

def Document.render (d : Document) : String :=
  d.json.pretty

/-- Reads a document without validating it. -/
def Document.decode (s : String) : Except DecodeError Document :=
  decodeText Document.shape.decode s

def Document.undecodable (e : DecodeError) : Error :=
  .invalidDocument ("failed to parse abstract syntax tree JSON: " ++ e.message)

/-- Reads a document, which has to be valid. -/
def Document.parse (s : String) : Except Error Document :=
  match Document.decode s with
  | .error e => .error (Document.undecodable e)
  | .ok d => d.validate.map fun _ => d

def SharedDocument.json (d : SharedDocument) : Json.Value :=
  .object [member "platforms" (.array (d.platforms.map fun p => .ofString p.name)),
    member "functions" (d.functions.json FunctionDecl.json),
    member "enums" (d.enums.json EnumDecl.json),
    member "opaqueTypes" (d.opaqueTypes.json OpaqueDecl.json)]

def SharedDocument.shape : Shape SharedDocument where
  name := "CAbstractSyntaxTreeCrossPlatform"
  blank := .empty
  fields :=
    [.required "platforms" (list Platform.decode) fun r v => { r with platforms := v },
      .defaulted "functions" (nameMap FunctionDecl.shape.decode)
        fun r v => { r with functions := v },
      .defaulted "enums" (nameMap EnumDecl.shape.decode) fun r v => { r with enums := v },
      .defaulted "opaqueTypes" (nameMap OpaqueDecl.shape.decode)
        fun r v => { r with opaqueTypes := v }]

def SharedDocument.render (d : SharedDocument) : String :=
  d.json.pretty

def SharedDocument.undecodable (e : DecodeError) : Error :=
  .invalidDocument ("failed to parse cross-platform abstract syntax tree JSON: " ++ e.message)

/-- Reads a shared document. -/
def SharedDocument.parse (s : String) : Except Error SharedDocument :=
  (decodeText SharedDocument.shape.decode s).mapError SharedDocument.undecodable

end HeaderBindings
