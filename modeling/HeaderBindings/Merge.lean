import HeaderBindings.Document.Basic
import HeaderBindings.Json.Basic
import HeaderBindings.Log

/-!
# Merging documents

A declaration is shared if every document declares it, as one kind and with one
definition; the place where it stands does not matter. All other declarations
are dropped, each for one reason: it is declared as several kinds, or else it is
missing somewhere, or else its definitions differ from the first. Documents
without a platform take no part.
-/

namespace HeaderBindings

open HeaderBindings.Json

/-- Why a declaration is not shared. -/
inductive DropReason where
  /-- Some platforms do not declare it. -/
  | missingOnPlatforms (missing : List Platform)
  /-- It is declared as several kinds. -/
  | kindMismatch (kinds : List Kind)
  /-- Some platforms define it differently from the first document. -/
  | definitionMismatch (platforms : List Platform)
deriving DecidableEq, Repr

/-- A declaration that is not shared. -/
structure Dropped where
  name : String
  reason : DropReason
deriving DecidableEq, Repr

/-- A document with its platform. -/
structure Source where
  platform : Platform
  document : Document

/-- One declaration of a name, with the platform of its document. -/
structure Candidate where
  platform : Platform
  decl : Decl
deriving DecidableEq, Repr

structure MergeOutcome where
  document : SharedDocument
  dropped : List Dropped
deriving DecidableEq

namespace Merge

/-- The documents that have a platform, in order. -/
def sources (documents : List Document) : List Source :=
  documents.filterMap fun d => d.platform?.map fun p => ⟨p, d⟩

/-- The distinct platforms of documents, in increasing order. -/
def platforms (sources : List Source) : List Platform :=
  Platform.all.filter fun p => sources.any (·.platform == p)

/-- The names that documents declare, in increasing order. -/
def names (sources : List Source) : List String :=
  sortedNames (sources.flatMap fun s => s.document.declarations.map (·.1))

/-- The declarations of a name, documents in order. -/
def candidates (sources : List Source) (name : String) : List Candidate :=
  sources.flatMap fun s =>
    (s.document.declarations.filter (·.1 == name)).map fun d => ⟨s.platform, d.2⟩

/-- Why the candidates of a name are dropped, if they are. -/
def dropReason? (platforms : List Platform) (documentCount : Nat) (candidates : List Candidate) :
    Option DropReason :=
  let kinds := (candidates.map (·.decl.kind)).eraseDups
  if kinds.length > 1 then some (.kindMismatch kinds)
  else if candidates.length < documentCount then
    some (.missingOnPlatforms
      (platforms.filter fun p => !candidates.any (·.platform == p)))
  else
    match candidates with
    | [] => none
    | first :: _ =>
      let differing := candidates.filter fun c => !c.decl.sameDefinition first.decl
      if differing.isEmpty then none
      else some (.definitionMismatch (differing.map (·.platform)))

/-- Why a name is dropped, if it is. -/
def verdict (sources : List Source) (name : String) : Option DropReason :=
  dropReason? (platforms sources) sources.length (candidates sources name)

/-- The shared declaration of a name: the one of the first document. -/
def shared? (sources : List Source) (name : String) : Option (String × Decl) :=
  match verdict sources name with
  | some _ => none
  | none => (candidates sources name).head?.map fun c => (name, c.decl)

/-- The entry that reports why a name is dropped. -/
def dropped? (sources : List Source) (name : String) : Option Dropped :=
  (verdict sources name).map fun reason => ⟨name, reason⟩

def outcome (sources : List Source) : MergeOutcome where
  document :=
    ((names sources).filterMap (shared? sources)).foldl (fun d e => d.insert e.1 e.2)
      { SharedDocument.empty with platforms := platforms sources }
  dropped := (names sources).filterMap (dropped? sources)

end Merge

/-- Merges documents. At least one of them has to have a platform. -/
def merge (documents : List Document) : Except Error MergeOutcome :=
  if (Merge.sources documents).isEmpty then
    .error (.invalidDocument "no platform-specific documents to merge")
  else
    .ok (Merge.outcome (Merge.sources documents))

/-- A list as reports show it. -/
def bracketed (items : List String) : String :=
  "[" ++ ", ".intercalate items ++ "]"

namespace DropReason

def record (name : String) : DropReason → Log.Record
  | missingOnPlatforms missing =>
    .plain .warning ("[Merge] Dropping " ++ name ++ " (missing on " ++
      bracketed (missing.map Platform.title) ++ ")")
  | kindMismatch kinds =>
    .plain .error ("[Merge] Dropping " ++ name ++ " (kind differs across platforms: " ++
      bracketed (kinds.map Kind.title) ++ ")")
  | definitionMismatch platforms =>
    .plain .error ("[Merge] Dropping " ++ name ++ " (definition differs on " ++
      bracketed (platforms.map Platform.title) ++ ")")

def report : DropReason → String
  | missingOnPlatforms missing =>
    "MissingOnPlatforms \x7b missing: " ++ bracketed (missing.map Platform.title) ++ " \x7d"
  | kindMismatch kinds => "KindMismatch \x7b kinds: " ++ bracketed (kinds.map Kind.title) ++ " \x7d"
  | definitionMismatch platforms =>
    "DefinitionMismatch \x7b platforms: " ++ bracketed (platforms.map Platform.title) ++ " \x7d"

def namesJson (names : List String) : Json.Value :=
  .array (names.map Value.ofString)

/-- The members that tell a reason in JSON. -/
def members : DropReason → List Member
  | missingOnPlatforms missing =>
    [member "reason" (.ofString "missing_on_platforms"),
      member "missing" (namesJson (missing.map Platform.name))]
  | kindMismatch kinds =>
    [member "reason" (.ofString "kind_mismatch"),
      member "kinds" (namesJson (kinds.map Kind.name))]
  | definitionMismatch platforms =>
    [member "reason" (.ofString "definition_mismatch"),
      member "platforms" (namesJson (platforms.map Platform.name))]

end DropReason

def Dropped.json (d : Dropped) : Json.Value :=
  .object (member "name" (.ofString d.name) :: d.reason.members)

namespace Merge

def skipRecord (d : Document) : Log.Record :=
  .plain .warning ("[Merge] Skipping " ++
    (if d.fileName.isEmpty then "<unnamed document>" else d.fileName) ++ " (platform unknown)")

def summaryRecord (documentCount : Nat) (o : MergeOutcome) : Log.Record :=
  .plain .info ("[Merge] Merged " ++ Decimal.ofNat documentCount ++ " documents (" ++
    Decimal.ofNat o.document.platforms.length ++ " platforms): kept " ++
    Decimal.ofNat o.document.size ++ " declarations, dropped " ++
    Decimal.ofNat o.dropped.length)

def log (documents : List Document) : List Log.Record :=
  (documents.filter (·.platform?.isNone)).map skipRecord ++
    match merge documents with
    | .ok o =>
      o.dropped.map (fun d => d.reason.record d.name) ++
        [summaryRecord (sources documents).length o]
    | .error _ => []

end Merge

end HeaderBindings
