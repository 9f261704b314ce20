import HeaderBindings.Capture
import HeaderBindings.Catalog

/-!
# Conformance of the exported functions

The exported functions obey four laws: a value is returned unchanged; a value is
printed as its decimal text and nothing else; the storage has the sentinel and
the greatest value of the declared integer type, and nothing above; and the sum
of the aggregate's fields is what it should be. A check compares the text that a
law expects with the text that is observed.
-/

namespace HeaderBindings

open HeaderBindings.Json

/-- A law of the exported functions. -/
inductive Law where
  | identity
  | print
  | width
  | total
deriving DecidableEq, Repr

namespace Law

def all : List Law :=
  [identity, print, width, total]

def name : Law → String
  | identity => "identity"
  | print => "print"
  | width => "width"
  | total => "calc"

def ofName? (name : String) : Option Law :=
  all.find? (·.name == name)

end Law

/-- One instance of a law and what came of it. -/
structure Check where
  law : Law
  subject : String
  input : String
  expected : String
  observed : String
  passed : Bool
deriving DecidableEq, Repr

/-- The check of an observation, which passes if it is as expected. -/
def Check.of (law : Law) (subject input expected observed : String) : Check :=
  ⟨law, subject, input, expected, observed, expected == observed⟩

def Check.json (c : Check) : Json.Value :=
  .object [member "law" (.ofString c.law.name), member "subject" (.ofString c.subject),
    member "input" (.ofString c.input), member "expected" (.ofString c.expected),
    member "observed" (.ofString c.observed), member "passed" (.bool c.passed)]

/-- The checks made on a platform. -/
structure ConformanceReport where
  platform : Platform
  total : Nat
  failed : Nat
  checks : List Check
deriving DecidableEq, Repr

namespace ConformanceReport

def ofChecks (p : Platform) (checks : List Check) : ConformanceReport :=
  ⟨p, checks.length, checks.countP (!·.passed), checks⟩

def passed (r : ConformanceReport) : Bool :=
  r.failed == 0

def failures (r : ConformanceReport) : List Check :=
  r.checks.filter (!·.passed)

def json (r : ConformanceReport) : Json.Value :=
  .object [member "platform" (.ofString r.platform.name), member "total" (.ofInt r.total),
    member "failed" (.ofInt r.failed), member "checks" (.array (r.checks.map Check.json))]

/-- A text filled up with blanks on the right to a number of characters. -/
def padded (width : Nat) (s : String) : String :=
  s ++ String.ofList (List.replicate (width - s.length) ' ')

def row (law subject expected observed result : String) : String :=
  padded 9 law ++ " " ++ padded 38 subject ++ " " ++ padded 22 expected ++ " " ++
    padded 22 observed ++ " " ++ result ++ "\n"

def checkRow (c : Check) : String :=
  row c.law.name c.subject c.expected c.observed (if c.passed then "ok" else "FAIL")

def table (r : ConformanceReport) : String :=
  row "law" "subject" "expected" "observed" "result" ++ String.join (r.checks.map checkRow) ++
    Decimal.ofNat r.total ++ " checks on " ++ r.platform.name ++ ", " ++ Decimal.ofNat r.failed ++
    " failed\n"

/-- The record that tells of a failed check. -/
def failureRecord (c : Check) : Log.Record :=
  .plain .error ("[Oracle] " ++ c.law.name ++ " " ++ c.subject ++ " failed for " ++ c.input ++
    ": expected " ++ c.expected ++ ", observed " ++ c.observed)

def log (r : ConformanceReport) : List Log.Record :=
  if r.passed then [.plain .info ("[Oracle] All " ++ Decimal.ofNat r.total ++ " checks passed")]
  else r.failures.map failureRecord

end ConformanceReport

namespace Conformance

/-- The text of an integer that was returned or refused. -/
def returned : Option Int → String
  | some value => Decimal.ofInt value
  | none => "<rejected>"

/-- The text of what was printed. Line breaks are shown by their escape. -/
def printed (p : Printed) : String :=
  if p.accepted then "\\n".intercalate p.lines else "<out of range>"

/-- The text that tells whether a value fits. -/
def fitting (fits : Bool) : String :=
  if fits then "fits" else "truncated"

def constantChecks (e : Export) (c : Enumerator) : List Check :=
  [.of .identity e.returnSymbol c.name (Decimal.ofInt c.value.toInt)
      (returned (e.identity c.value.toInt)),
    .of .print e.printSymbol c.name (Decimal.ofInt c.value.toInt)
      (printed (e.print c.value.toInt))]

/-- The checks of the storage of an enum. -/
def widthChecks (entry : CatalogEntry) : List Check :=
  let t := entry.integerType
  let sentinel := (entry.sentinel?.map (·.value.toInt)).getD 0
  let identity := entry.exported.identity
  [.of .width entry.name "sentinel" (fitting true)
      (fitting (t.holds sentinel && (identity sentinel).isSome)),
    .of .width entry.name (t.name ++ " max") (returned (some t.greatest))
      (returned (identity t.greatest)),
    .of .width entry.name (t.name ++ " max + 1") (returned none)
      (returned (identity (t.greatest + 1)))]

def enumChecks (entry : CatalogEntry) : List Check :=
  entry.constants.flatMap (constantChecks entry.exported) ++ widthChecks entry

/-- The fields that the aggregate is tried with on each platform. -/
def sampleFields : Platform → List Int32
  | .linux => [5]
  | .macos => [3, 4]
  | .ios => [1, 2, 3]
  | .windows => [1, 2, 3, 4]

/-- The fields that the native aggregate is tried with. -/
def nativeFields (compiled : Platform) : List Int32 :=
  (List.range compiled.fieldCount).map fun i => Int32.ofNat (10 * (i + 1))

def fieldsText (fields : List Int32) : String :=
  "[" ++ ", ".intercalate (fields.map fun f => Decimal.ofInt f.toInt) ++ "]"

def totalText : Except Error Int32 → String
  | .ok total => Decimal.ofInt total.toInt
  | .error e => e.report

/-- The exact sum of fields as text. -/
def expectedTotal (fields : List Int32) : String :=
  Decimal.ofInt (fields.foldr (fun field total => field.toInt + total) 0)

def layoutCheck (p : Platform) : Check :=
  let fields := sampleFields p
  .of .total (aggregateName ++ " (" ++ p.name ++ ")") (fieldsText fields) (expectedTotal fields)
    (totalText ((Layout.ofFields p fields).map Layout.total))

def nativeCheck (compiled : Platform) : Check :=
  let fields := nativeFields compiled
  .of .total (totalSymbol ++ " (native)") (fieldsText fields) (expectedTotal fields)
    (totalText ((Native.ofFields compiled fields).map exportedTotal))

def checkedEntries (x : ExclusionList) (includeExcluded : Bool) : List CatalogEntry :=
  Catalog.entries.filter fun e => includeExcluded || !x.excludes e.name

/-- Checks all laws. Excluded enums are exported as well, and are checked if asked for. -/
def run (compiled : Platform) (x : ExclusionList) (includeExcluded : Bool) : ConformanceReport :=
  .ofChecks compiled ((checkedEntries x includeExcluded).flatMap enumChecks ++
    Platform.all.map layoutCheck ++ [nativeCheck compiled])

end Conformance

end HeaderBindings
