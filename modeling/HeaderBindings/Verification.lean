import HeaderBindings.Artifact.Storage
import HeaderBindings.Document.Codec
import HeaderBindings.Exclusion
import HeaderBindings.Log

/-!
# Verification of artifacts

An artifact is checked against the document it was generated from. Reported are,
in this order: symbols derived from excluded declarations; enums whose declared
integer type, or whose storage in the artifact, cannot hold all their values; and
declarations that the artifact does not mention.
-/

namespace HeaderBindings

open HeaderBindings.Artifact HeaderBindings.Json

/-- A finding about an artifact. -/
inductive Anomaly where
  /-- A symbol is derived from an excluded declaration. -/
  | excluded (declaration symbol : String) (line : Nat)
  /-- The declared integer type of an enum cannot hold a value. -/
  | declaredTooNarrow (declaration integerType : String) (value : Enumerator)
  /-- The storage that the artifact gives an enum cannot hold a value. -/
  | storedTooNarrow (declaration : String) (storage : Storage) (value : Enumerator)
  /-- The declared integer type of an enum is not known. -/
  | unknownIntegerType (declaration integerType : String)
  /-- The artifact does not mention a declaration. -/
  | missing (declaration : String)
deriving DecidableEq, Repr

inductive AnomalyKind where
  | excludedDeclaration
  | widthTooNarrow
  | unknownIntegerType
  | missingDeclaration
deriving DecidableEq, Repr

namespace AnomalyKind

/-- The kinds in their order. -/
def all : List AnomalyKind :=
  [excludedDeclaration, widthTooNarrow, unknownIntegerType, missingDeclaration]

def name : AnomalyKind → String
  | excludedDeclaration => "excluded_declaration"
  | widthTooNarrow => "width_too_narrow"
  | unknownIntegerType => "unknown_integer_type"
  | missingDeclaration => "missing_declaration"

end AnomalyKind

namespace Anomaly

def kind : Anomaly → AnomalyKind
  | excluded _ _ _ => .excludedDeclaration
  | declaredTooNarrow _ _ _ => .widthTooNarrow
  | storedTooNarrow _ _ _ => .widthTooNarrow
  | unknownIntegerType _ _ => .unknownIntegerType
  | missing _ => .missingDeclaration

/-- A value of an enum as messages show it. -/
def valueText (v : Enumerator) : String :=
  v.name ++ " = " ++ Decimal.ofInt v.value.toInt

def message : Anomaly → String
  | excluded declaration symbol line =>
    "Symbol " ++ symbol ++ " on line " ++ Decimal.ofNat line ++
      " is derived from excluded declaration " ++ declaration
  | declaredTooNarrow declaration integerType value =>
    declaration ++ " is backed by " ++ integerType ++ ", which cannot hold " ++ valueText value
  | storedTooNarrow declaration storage value =>
    "Binding for " ++ declaration ++ " on line " ++ Decimal.ofNat storage.line ++
      " stores it as " ++ storage.spelling ++ ", which cannot hold " ++ valueText value
  | unknownIntegerType declaration integerType =>
    declaration ++ " declares unrecognized integer type " ++ integerType
  | missing declaration => "Artifact never mentions " ++ declaration

/-- What a finding is about, as members in JSON. -/
def details : Anomaly → List Member
  | excluded declaration symbol line =>
    [member "declaration" (.ofString declaration), member "symbol" (.ofString symbol),
      member "line" (.ofInt line)]
  | declaredTooNarrow declaration integerType value =>
    [member "declaration" (.ofString declaration), member "symbol" (.ofString value.name),
      member "integer_type" (.ofString integerType), member "value" (.ofInt value.value.toInt)]
  | storedTooNarrow declaration storage value =>
    [member "declaration" (.ofString declaration), member "symbol" (.ofString value.name),
      member "line" (.ofInt storage.line), member "integer_type" (.ofString storage.spelling),
      member "value" (.ofInt value.value.toInt)]
  | unknownIntegerType declaration integerType =>
    [member "declaration" (.ofString declaration), member "integer_type" (.ofString integerType)]
  | missing declaration => [member "declaration" (.ofString declaration)]

def json (a : Anomaly) : Json.Value :=
  .object ([member "kind" (.ofString a.kind.name), member "message" (.ofString a.message)] ++
    a.details)

end Anomaly

/-- What an artifact is checked for. -/
structure VerifyOptions where
  exclusions : ExclusionList
  /-- Whether an exclusion covers derived symbols and not only the declaration itself. -/
  coverDerived : Bool
  /-- Whether every declaration of the document has to be mentioned. -/
  requireCoverage : Bool
deriving DecidableEq, Repr

structure Report where
  artifact : String
  identifierCount : Nat
  anomalies : List Anomaly
deriving DecidableEq, Repr

namespace Verification

/-- The integer type that an enum declares: the one of the name, or else the one of the size and
the signedness. -/
def declaredType? (t : TypeInfo) : Option IntegerType :=
  IntegerType.ofCName? t.name <|>
    t.signed.bind fun signed => IntegerType.ofSize? t.size.toNat signed

/-- The values that an integer type cannot hold. -/
def tooWide (t : IntegerType) (values : List Enumerator) : List Enumerator :=
  values.filter fun v => !t.holds v.value.toInt

/-- Checks the values of an enum against its declared integer type. -/
def declaredWidth (name : String) (decl : EnumDecl) : List Anomaly :=
  match declaredType? decl.integerType with
  | none => [.unknownIntegerType name decl.integerType.name]
  | some t => (tooWide t decl.values).map (.declaredTooNarrow name decl.integerType.name)

/-- Checks the values of an enum against the storage that an artifact gives it. -/
def storedWidth (text name : String) (decl : EnumDecl) : List Anomaly :=
  match storage? text name with
  | none => []
  | some s => (tooWide s.integerType decl.values).map (.storedTooNarrow name s)

/-- The excluded declaration that a symbol stands for. -/
def excludedBy? (o : VerifyOptions) (symbol : String) : Option String :=
  if o.coverDerived then (o.exclusions.covering? symbol).map (·.declaration)
  else if o.exclusions.excludes symbol then some symbol
  else none

/-- Identifiers are visited line by line, and in the order of their names on each line. -/
def visitedBefore (a b : String × Nat) : Bool :=
  if a.2 = b.2 then a.1 ≤ b.1 else a.2 ≤ b.2

def excludedSymbols (o : VerifyOptions) (found : NameMap Nat) : List Anomaly :=
  (found.entries.mergeSort visitedBefore).filterMap fun e =>
    (excludedBy? o e.1).map fun declaration => .excluded declaration e.1 e.2

/-- The enums that are too narrow for their values. -/
def narrowEnums (o : VerifyOptions) (text : String) (d : Document) : List Anomaly :=
  d.enums.entries.flatMap fun e =>
    declaredWidth e.1 e.2 ++ if o.exclusions.excludes e.1 then [] else storedWidth text e.1 e.2

/-- The declarations that are not among the identifiers. -/
def missingDeclarations (o : VerifyOptions) (found : NameMap Nat) (d : Document) : List Anomaly :=
  if o.requireCoverage then
    ((d.enums.names ++ d.functions.names ++ d.opaqueTypes.names).filter fun name =>
      !o.exclusions.excludes name && !found.contains name).map .missing
  else
    []

end Verification

/-- Checks an artifact against a document. -/
def verify (artifact text : String) (d : Document) (o : VerifyOptions) : Report :=
  let found := firstLines text
  { artifact
    identifierCount := found.size
    anomalies :=
      Verification.excludedSymbols o found ++ Verification.narrowEnums o text d ++
        Verification.missingDeclarations o found d }

namespace Report

/-- Whether anything was found. -/
def hasAnomalies (r : Report) : Bool :=
  !r.anomalies.isEmpty

def count (r : Report) (kind : AnomalyKind) : Nat :=
  r.anomalies.countP (·.kind == kind)

/-- The error of a finding, if it is an excluded symbol. -/
def exclusionError? : Anomaly → Option Error
  | .excluded declaration symbol _ => some (.excludedDeclarationEmitted declaration symbol)
  | _ => none

/-- Fails for the first excluded symbol. -/
def exclusionResult (r : Report) : Except Error Unit :=
  match r.anomalies.findSome? exclusionError? with
  | some e => .error e
  | none => .ok ()

def json (r : Report) : Json.Value :=
  .object [member "artifact" (.ofString r.artifact),
    member "identifiers_scanned" (.ofInt r.identifierCount),
    member "anomalies" (.array (r.anomalies.map Anomaly.json))]

def exclusionRecord? (artifact : String) : Anomaly → Option Log.Record
  | .excluded _ symbol line =>
    some (.plain .warning ("[Verify] " ++ artifact ++ ": excluded symbol " ++ symbol ++
      " on line " ++ Decimal.ofNat line))
  | _ => none

def log (r : Report) : List Log.Record :=
  r.anomalies.filterMap (exclusionRecord? r.artifact) ++
    [.plain .info ("[Verify] " ++ r.artifact ++ ": " ++ Decimal.ofNat r.identifierCount ++
      " identifiers, " ++ Decimal.ofNat r.anomalies.length ++ " anomalies")]

end Report

end HeaderBindings
