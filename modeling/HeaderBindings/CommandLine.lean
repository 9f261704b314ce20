import HeaderBindings.Decimal.Integer

/-!
# Command lines

A command line names one command and gives options, before the command those
that every command has, behind it these and its own. The rules:

* an option that takes a value takes the next argument, or what follows an equals
  sign in the same argument;
* an option that takes several values takes arguments until the next option, and
  may be repeated; every other option stands at most once before the command and
  once behind it, where it counts;
* a value does not start with a dash, unless it is a single dash or a negative
  number where numbers are expected;
* a path is not empty;
* two dashes may stand at the end.
-/

namespace HeaderBindings.CommandLine

/-- How a report is written. -/
inductive Format where
  | json
  | table
deriving DecidableEq, Repr

inductive Command where
  /-- Write the document of a platform. -/
  | document (platform output : Option String)
  /-- Merge documents. -/
  | merge (inputs : List String) (output : Option String)
  /-- Check an artifact. -/
  | verify (artifact : String) (document : Option String)
  /-- Check the laws of the exported functions. -/
  | conformance (format : Format)
  /-- Print values of an enum. -/
  | print (enum : String) (values : List Int)
  /-- List the catalog. -/
  | list
deriving DecidableEq, Repr

/-- A command with the options that every command has. -/
structure Invocation where
  config : Option String
  verbose : Bool
  command : Command
deriving DecidableEq, Repr

/-- How many values an option takes. -/
inductive Arity where
  | flag
  | one
  | several
deriving DecidableEq, Repr

/-- An option that may be given. -/
structure OptionSpec where
  name : String
  arity : Arity
  /-- Whether values may be negative numbers. -/
  negative : Bool
deriving DecidableEq, Repr

/-- An option that takes no value. -/
def flag (name : String) : OptionSpec := ⟨name, .flag, false⟩

/-- An option that takes one value. -/
def single (name : String) : OptionSpec := ⟨name, .one, false⟩

def sharedOptions : List OptionSpec :=
  [single "config", flag "verbose"]

def commandOptions : List (String × List OptionSpec) :=
  [("ast", [single "platform", single "output"]),
    ("merge", [⟨"input", .several, false⟩, single "output"]),
    ("verify", [single "bindings", single "ast"]),
    ("oracle", [single "format"]),
    ("print", [single "fixture", ⟨"value", .several, true⟩]),
    ("list", [])]

structure Given where
  name : String
  values : List String
deriving DecidableEq, Repr

/-- An option that still takes values, and the values it has. -/
structure Pending where
  spec : OptionSpec
  values : List String
deriving DecidableEq, Repr

/-- What has been read of a command line. Options are held with the last first. -/
structure Scan where
  /-- The command and its own options. -/
  command : Option (String × List OptionSpec)
  /-- The options before the command. -/
  before : List Given
  /-- The options behind the command. -/
  behind : List Given
  pending : Option Pending
  /-- Whether two dashes have been read. -/
  ended : Bool
deriving DecidableEq, Repr

namespace Scan

def initial : Scan := ⟨none, [], [], none, false⟩

def available (s : Scan) : List OptionSpec :=
  match s.command with
  | none => sharedOptions
  | some (_, own) => own ++ sharedOptions

def give (s : Scan) (g : Given) : Scan :=
  match s.command with
  | none => { s with before := g :: s.before, pending := none }
  | some _ => { s with behind := g :: s.behind, pending := none }

/-- Whether an argument can be the value of an option. -/
def isValue (spec : OptionSpec) (arg : String) : Bool :=
  match arg.toList with
  | '-' :: digits => digits.isEmpty || (spec.negative && digits.all Char.isDigit)
  | _ => true

/-- Takes the name of an option, with the value attached to it, if any. -/
def takeOption (s : Scan) (name : List Char) (attached : Option (List Char)) : Option Scan := do
  let spec ← s.available.find? (·.name.toList == name)
  match spec.arity, attached with
  | .flag, none => return s.give ⟨spec.name, []⟩
  | .flag, some _ => none
  | _, some value => return s.give ⟨spec.name, [String.ofList value]⟩
  | _, none => return { s with pending := some ⟨spec, []⟩ }

def takeCommand (s : Scan) (name : String) : Option Scan :=
  match s.command with
  | some _ => none
  | none => (commandOptions.lookup name).map fun own => { s with command := some (name, own) }

/-- Takes an argument that is no value. -/
def takeFresh (s : Scan) (arg : String) : Option Scan :=
  match arg.toList with
  | ['-', '-'] => some { s with ended := true }
  | '-' :: '-' :: option =>
    match option.dropWhile (· != '=') with
    | [] => s.takeOption option none
    | _ :: value => s.takeOption (option.takeWhile (· != '=')) (some value)
  | ['-', 'v'] => s.takeOption "verbose".toList none
  | '-' :: _ :: _ => none
  | _ => s.takeCommand arg

def step (s : Scan) (arg : String) : Option Scan :=
  if s.ended then none
  else
    match s.pending with
    | none => s.takeFresh arg
    | some p =>
      if isValue p.spec arg then
        if p.spec.arity = .several then
          some { s with pending := some { p with values := p.values ++ [arg] } }
        else
          some (s.give ⟨p.spec.name, [arg]⟩)
      else if p.values.isEmpty then none
      else (s.give ⟨p.spec.name, p.values⟩).takeFresh arg

def finish (s : Scan) : Option Scan :=
  match s.pending with
  | none => some s
  | some p => if p.values.isEmpty then none else some (s.give ⟨p.spec.name, p.values⟩)

end Scan

/-- The values of an option, occurrences in order. -/
def valuesOf (given : List Given) (name : String) : List String :=
  given.reverse.flatMap fun g => if g.name == name then g.values else []

/-- The values of an option that has to be given. -/
def someValues (given : List Given) (name : String) : Option (List String) :=
  match valuesOf given name with
  | [] => none
  | values => some values

/-- The value of an option that may be given at most once. -/
def atMostOne (given : List Given) (name : String) : Option (Option String) :=
  match valuesOf given name with
  | [] => some none
  | [value] => some (some value)
  | _ => none

/-- The value of an option that has to be given once. -/
def exactlyOne (given : List Given) (name : String) : Option String :=
  match valuesOf given name with
  | [value] => some value
  | _ => none

/-- Whether a flag is given, which may be at most once. -/
def isGiven (given : List Given) (name : String) : Option Bool :=
  match given.filter (·.name == name) with
  | [] => some false
  | [_] => some true
  | _ => none

/-- Refuses an empty path. -/
def path (text : String) : Option String :=
  if text.isEmpty then none else some text

def optionalPath : Option String → Option (Option String)
  | none => some none
  | some text => (path text).map some

/-- The format of a report, a table unless said otherwise. -/
def format : Option String → Option Format
  | none => some .table
  | some "json" => some .json
  | some "table" => some .table
  | some _ => none

/-- The command of a name with its options. -/
def interpret (name : String) (given : List Given) : Option Command :=
  match name with
  | "ast" => do
    let platform ← atMostOne given "platform"
    let output ← optionalPath (← atMostOne given "output")
    return .document platform output
  | "merge" => do
    let inputs ← (← someValues given "input").mapM path
    let output ← optionalPath (← atMostOne given "output")
    return .merge inputs output
  | "verify" => do
    let artifact ← path (← exactlyOne given "bindings")
    let document ← optionalPath (← atMostOne given "ast")
    return .verify artifact document
  | "oracle" => do
    return .conformance (← format (← atMostOne given "format"))
  | "print" => do
    let enum ← exactlyOne given "fixture"
    let values ← (← someValues given "value").mapM Decimal.readInt128?
    return .print enum values
  | "list" => some .list
  | _ => none

/-- What a command line asks for, if it follows the rules. -/
def parse (args : List String) : Option Invocation := do
  let s ← (← args.foldlM Scan.step Scan.initial).finish
  let (name, _) ← s.command
  let configBefore ← optionalPath (← atMostOne s.before "config")
  let configBehind ← optionalPath (← atMostOne s.behind "config")
  let verboseBefore ← isGiven s.before "verbose"
  let verboseBehind ← isGiven s.behind "verbose"
  let command ← interpret name s.behind
  return ⟨configBehind <|> configBefore, verboseBefore || verboseBehind, command⟩

end HeaderBindings.CommandLine
