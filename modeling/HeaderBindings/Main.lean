import HeaderBindings.Command

/-!
# The program

Reads the files that a command needs, lets the command decide, and carries out
what it decided.
-/

namespace HeaderBindings

open HeaderBindings.File

/-- The platform that this program is built for. -/
def compiledPlatform : Platform := .linux

/-- The fault that an exception of the file system stands for. -/
def faultOf : IO.Error → FileFault
  | .noFileOrDirectory _ _ _ => .notFound
  | .alreadyExists _ _ _ => .alreadyExists
  | .inappropriateType _ code _ => if code == 21 then .isADirectory else .notADirectory
  | .invalidArgument _ 36 _ => .nameTooLong
  | e => .other (toString e)

/-- Performs an action and returns its fault, if it has one. -/
def guarded {α : Type} (action : IO α) : IO (Except FileFault α) := do
  try
    return .ok (← action)
  catch e =>
    return .error (faultOf e)

def readText (path : String) : IO (Except FileFault String) := do
  match ← guarded (IO.FS.readBinFile path) with
  | .error fault => return .error fault
  | .ok bytes =>
    match String.fromUTF8? bytes with
    | some text => return .ok text
    | none => return .error .notText

/-- Saves a text in a file and makes the directories that are missing. -/
def saveText (s : Saving) : IO (Except SaveFault Unit) := do
  if let some directory := directoryToMake? s.path then
    if let .error fault ← guarded (IO.FS.createDirAll directory) then
      return .error (.creating directory fault)
  match ← guarded (IO.FS.writeFile s.path s.text) with
  | .ok () => return .ok ()
  | .error fault => return .error (.writing s.path fault)

/-- Performs what a command line asks for. -/
def perform (args : List String) : IO Transcript := do
  match CommandLine.parse args with
  | none => return ⟨"", [usageText], usageExitCode⟩
  | some i =>
    let read ← (filesRead i).mapM fun path => return (path, ← readText path)
    let contents : Contents := fun path => (read.lookup path).getD (.error .notFound)
    let o := runInvocation compiledPlatform contents i
    match o.saving with
    | none => return o.transcript i.verbose
    | some s => return (o.afterSaving (← saveText s)).transcript i.verbose

end HeaderBindings

def main (args : List String) : IO UInt32 := do
  let t ← HeaderBindings.perform args
  for line in t.reports do
    IO.eprintln line
  IO.print t.output
  return t.exitCode.toUInt32
