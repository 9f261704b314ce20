import HeaderBindings.Error
import HeaderBindings.Text.Terminal

/-!
# Log records

Operations return the records they would log beside their results; the outer
layer decides which of them are shown.
-/

namespace HeaderBindings.Log

/-- How important a record is. -/
inductive Level where
  | error
  | warning
  | info
  | debug
deriving DecidableEq, Repr

/-- The word a level is shown by. -/
def Level.word : Level → String
  | .error => "ERROR"
  | .warning => "WARN"
  | .info => "INFO"
  | .debug => "DEBUG"

/-- Whether records of a level are shown without being asked for. -/
def Level.isUrgent : Level → Bool
  | .error => true
  | .warning => true
  | .info => false
  | .debug => false

/-- A value that stands beside a message. -/
structure Field where
  name : String
  value : String
deriving DecidableEq, Repr

def Field.text (f : Field) : String :=
  " " ++ f.name ++ "=" ++ f.value

/-- One record: a message and the values beside it. -/
structure Record where
  level : Level
  message : String
  fields : List Field
deriving DecidableEq, Repr

namespace Record

def plain (level : Level) (message : String) : Record :=
  ⟨level, message, []⟩

/-- A record as a line with a given form of the message. -/
def lineWith (message : String) (r : Record) : String :=
  r.level.word ++ " " ++ message ++ String.join (r.fields.map Field.text)

def line (r : Record) : String :=
  r.lineWith r.message

/-- A record as a line on a terminal, which the message cannot steer. Fields are shown as they
are. -/
def terminalLine (r : Record) : String :=
  r.lineWith (Text.terminalText r.message)

end Record

/-- The record of an error that occurred in a context. -/
def ofError (context : String) (e : Error) : Record :=
  .plain .error ("Fixture error in " ++ context ++ ": code=" ++ Decimal.ofNat e.code ++
    ", component=Fixtures, message=" ++ e.message)

end HeaderBindings.Log
