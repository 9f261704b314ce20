import HeaderBindings.CommandLine
import HeaderBindings.Config
import HeaderBindings.Conformance
import HeaderBindings.Merge

/-!
# Commands

What each command writes, what it reports and how it ends, given what the files
hold. A command may end in a file that is to be saved; whether that succeeds is
decided outside and changes the outcome. Nothing else is done to files.
-/

namespace HeaderBindings

open HeaderBindings.CommandLine HeaderBindings.File HeaderBindings.Json HeaderBindings.Text

/-- Something that is reported beside the output. -/
inductive Diagnostic where
  | record (r : Log.Record)
  | text (s : String)
deriving DecidableEq, Repr

/-- A file that is to be saved. -/
structure Saving where
  path : String
  text : String
deriving DecidableEq, Repr

/-- What a command does. -/
structure Outcome where
  output : String
  diagnostics : List Diagnostic
  exitCode : Nat
  saving : Option Saving
deriving DecidableEq, Repr

/-- Why a command fails. -/
structure Failure where
  message : String
  cause : Option String
deriving DecidableEq, Repr

/-- A text with every further line indented. -/
def indented (s : String) : String :=
  String.ofList (s.toList.flatMap fun c => if c = '\n' then ['\n', ' ', ' ', ' ', ' '] else [c])

namespace Failure

def ofError (e : Error) : Failure :=
  ⟨e.report, none⟩

def text (f : Failure) : String :=
  "Error: " ++ f.message ++
    match f.cause with
    | none => ""
    | some cause => "\n\nCaused by:\n    " ++ indented cause

end Failure

namespace Outcome

def success (output : String) (log : List Log.Record) : Outcome :=
  ⟨output, log.map .record, 0, none⟩

def failure (output : String) (log : List Log.Record) (f : Failure) : Outcome :=
  ⟨output, log.map .record ++ [.text f.text], 1, none⟩

/-- A command that writes a text as a line or saves it in a file. -/
def deliver (text : String) (path : Option String) (log : List Log.Record) : Outcome :=
  match path with
  | none => success (text ++ "\n") log
  | some path => ⟨"", log.map .record, 0, some ⟨path, text⟩⟩

/-- Records in front of what a command reports. -/
def logged (o : Outcome) (log : List Log.Record) : Outcome :=
  { o with diagnostics := log.map .record ++ o.diagnostics }

def saveFailure : SaveFault → Failure
  | .creating directory fault => ⟨"creating " ++ directory, some fault.message⟩
  | .writing path fault => ⟨"writing " ++ path, some fault.message⟩

def afterSaving (o : Outcome) : Except SaveFault Unit → Outcome
  | .ok () => { o with saving := none }
  | .error fault =>
    { o with
      diagnostics := o.diagnostics ++ [.text (saveFailure fault).text]
      exitCode := 1
      saving := none }

/-- Carries out an outcome on a file tree: its file is saved, if it has one. -/
def carryOut (o : Outcome) (t : FileTree) : Outcome × FileTree :=
  match o.saving with
  | none => (o, t)
  | some s =>
    let (tree, result) := t.save s.path s.text
    (o.afterSaving result, tree)

/-- What is shown of the diagnostics, line by line. Only urgent records are shown unless all are
asked for. -/
def shown (verbose : Bool) (o : Outcome) : List String :=
  o.diagnostics.filterMap fun
    | .record r => if verbose || r.level.isUrgent then some r.terminalLine else none
    | .text s => some s

end Outcome

/-- What files hold, or why they cannot be read. -/
abbrev Contents := String → Except FileFault String

def readDocument (contents : Except FileFault String) : Except Error Document :=
  match contents with
  | .error fault => .error (.io fault.message)
  | .ok text => Document.parse text

/-- The report on an artifact that a file holds. -/
def verifyFile (path : String) (contents : Except FileFault String) (d : Document)
    (o : VerifyOptions) : Except Error Report :=
  match contents with
  | .error fault => .error (.io fault.message)
  | .ok text => .ok (verify path text d o)

/-- The platform that is asked for, or else the one of the settings. -/
def resolvePlatform (compiled : Platform) (c : Config) : Option String → Except Failure Platform
  | some name =>
    match Platform.parse name with
    | .ok p => .ok p
    | .error e => .error ⟨"resolving platform " ++ quoted name, some e.report⟩
  | none =>
    match c.targetPlatform compiled with
    | .ok p => .ok p
    | .error e => .error (.ofError e)

def documentCommand (compiled : Platform) (c : Config) (platform output : Option String) :
    Outcome :=
  match resolvePlatform compiled c platform with
  | .error f => .failure "" [] f
  | .ok p =>
    .deliver (Catalog.document p c.exclusions).render output (Catalog.documentLog c.exclusions)

/-- A file that is read: its path and what it holds. -/
structure FileInput where
  path : String
  contents : Except FileFault String

def acceptedDocuments (inputs : List FileInput) : List Document :=
  inputs.filterMap fun i => (readDocument i.contents).toOption

/-- The record that tells of an input that is no document. -/
def inputRecord? (i : FileInput) : Option Log.Record :=
  match readDocument i.contents with
  | .ok _ => none
  | .error e => some (Log.ofError ("merge input " ++ i.path) e)

def droppedRecord (d : Dropped) : Log.Record :=
  ⟨.info, "declaration dropped", [⟨"name", d.name⟩, ⟨"reason", d.reason.report⟩]⟩

def mergeCommand (inputs : List FileInput) (output : Option String) : Outcome :=
  let documents := acceptedDocuments inputs
  let log := inputs.filterMap inputRecord? ++ Merge.log documents
  match merge documents with
  | .error e => .failure "" (log ++ [Log.ofError "merge" e]) (.ofError e)
  | .ok o => .deliver o.document.render output (log ++ o.dropped.map droppedRecord)

/-- The document that an artifact is checked against, and what is logged about it. -/
def referenceDocument (compiled : Platform) (c : Config) :
    Option FileInput → Except Failure (Document × List Log.Record)
  | some i =>
    match readDocument i.contents with
    | .ok d => .ok (d, [])
    | .error e => .error ⟨"reading " ++ i.path, some e.report⟩
  | none =>
    match c.targetPlatform compiled with
    | .ok p => .ok (Catalog.document p c.exclusions, Catalog.documentLog c.exclusions)
    | .error e => .error (.ofError e)

/-- The findings about an artifact in JSON, as they are reported beside the output. -/
def findings (r : Report) : Json.Value :=
  .object [member "artifact" (.ofString r.artifact),
    member "anomaly_count" (.ofInt r.anomalies.length),
    member "anomalies" (.array (r.anomalies.map Anomaly.json))]

/-- Writes the report on an artifact, and reports the findings if there are any. -/
def reportOutcome (r : Report) : Outcome :=
  let written : Outcome := .success (r.json.pretty ++ "\n") r.log
  if r.hasAnomalies then
    { written with
      diagnostics := written.diagnostics ++
        (match r.exclusionResult with
          | .error e => [.record (Log.ofError "verify" e)]
          | .ok () => []) ++
        [.text (findings r).pretty]
      exitCode := 2 }
  else
    written

def verifyCommand (compiled : Platform) (c : Config) (artifact : FileInput)
    (document : Option FileInput) : Outcome :=
  match referenceDocument compiled c document with
  | .error f => .failure "" [] f
  | .ok (d, log) =>
    match verifyFile artifact.path artifact.contents d c.verifyOptions with
    | .error e => .failure "" log ⟨"verifying " ++ artifact.path, some e.report⟩
    | .ok r => (reportOutcome r).logged log

def conformanceCommand (compiled : Platform) (c : Config) (format : Format) : Outcome :=
  let r := Conformance.run compiled c.exclusions c.includeExcluded
  let text :=
    match format with
    | .json => r.json.pretty ++ "\n"
    | .table => r.table
  { Outcome.success text r.log with exitCode := if r.passed then 0 else 2 }

/-- Prints values one after the other until one is refused. What has been written so far is
given. -/
def printValues (enum : String) (e : Export) (written : String) : List Int → Outcome
  | [] => .success written []
  | v :: rest =>
    let p := e.printNatively v
    if p.accepted then printValues enum e (written ++ p.output) rest
    else .failure written [] ⟨Decimal.ofInt v ++ " does not fit the storage of " ++ enum, none⟩

def printCommand (enum : String) (values : List Int) : Outcome :=
  match Export.find? enum with
  | none => .failure "" [] ⟨"no exported enum named " ++ quoted enum, none⟩
  | some e => printValues enum e "" values

def listing (x : ExclusionList) (e : CatalogEntry) : String :=
  e.name ++ " [" ++ e.integerType.name ++ "]" ++
    (if x.excludes e.name then " (excluded)" else "") ++ "\n  " ++ e.exported.printSymbol ++
    "\n  " ++ e.exported.returnSymbol ++ "\n"

def listCommand (compiled : Platform) (c : Config) : Outcome :=
  .success (String.join (Catalog.entries.map (listing c.exclusions)) ++ aggregateName ++ " [" ++
    Decimal.ofNat compiled.aggregateSize ++ " bytes on " ++ compiled.name ++ "]\n  " ++
    totalSymbol ++ "\n") []

/-- The settings that a command works with, and what is logged about them. -/
def settings (contents : Contents) : Option String → Config × List Log.Record
  | some path =>
    ((Config.ofFile path (contents path)).1, [(Config.ofFile path (contents path)).2])
  | none => Config.ofDefaultFile (contents Config.defaultPath)

def runCommand (compiled : Platform) (contents : Contents) (c : Config) : Command → Outcome
  | .document platform output => documentCommand compiled c platform output
  | .merge inputs output => mergeCommand (inputs.map fun p => ⟨p, contents p⟩) output
  | .verify artifact document =>
    verifyCommand compiled c ⟨artifact, contents artifact⟩
      (document.map fun p => ⟨p, contents p⟩)
  | .conformance format => conformanceCommand compiled c format
  | .print enum values => printCommand enum values
  | .list => listCommand compiled c

/-- Carries out what a command line asks for. -/
def runInvocation (compiled : Platform) (contents : Contents) (i : Invocation) : Outcome :=
  let (config, log) := settings contents i.config
  (runCommand compiled contents config i.command).logged
    (log ++ [⟨.debug, "configuration resolved", [⟨"config", config.report⟩]⟩])

def filesRead (i : Invocation) : List String :=
  i.config.getD Config.defaultPath ::
    match i.command with
    | .merge inputs _ => inputs
    | .verify artifact document => artifact :: document.toList
    | _ => []

/-- What is reported about a command line that does not follow the rules. -/
def usageText : String := "<usage error>"

def usageExitCode : Nat := 2

/-- What a run of the program leaves: its output, its reports line by line, and how it ends. -/
structure Transcript where
  output : String
  reports : List String
  exitCode : Nat
deriving DecidableEq, Repr

def Outcome.transcript (verbose : Bool) (o : Outcome) : Transcript :=
  ⟨o.output, o.shown verbose, o.exitCode⟩

def runOnTree (compiled : Platform) (t : FileTree) (args : List String) : Transcript × FileTree :=
  match CommandLine.parse args with
  | none => (⟨"", [usageText], usageExitCode⟩, t)
  | some i =>
    let (o, tree) := (runInvocation compiled t.read i).carryOut t
    (o.transcript i.verbose, tree)

end HeaderBindings
