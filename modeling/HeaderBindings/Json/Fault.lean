import HeaderBindings.Json.Token

/-!
# Faults of form

Where a text stops being JSON: what was due there, and what stands there
instead. A reader that takes the text apart for its own purpose and one that
merely passes over a value it does not need name some faults differently;
`Fault.passedError` is the name in passing.
-/

namespace HeaderBindings.Json

/-- How a text departs from the grammar. -/
inductive GrammarError where
  | endInValue
  | endInList
  | endInObject
  | endInString
  | expectedValue
  | expectedWord
  | expectedColon
  | expectedItemEnd
  | expectedMemberEnd
  | expectedKey
  | trailingComma
  | trailingCharacters
  | invalidNumber
  | invalidEscape
  | controlCharacter
deriving DecidableEq, Repr

def GrammarError.message : GrammarError → String
  | endInValue => "EOF while parsing a value"
  | endInList => "EOF while parsing a list"
  | endInObject => "EOF while parsing an object"
  | endInString => "EOF while parsing a string"
  | expectedValue => "expected value"
  | expectedWord => "expected ident"
  | expectedColon => "expected `:`"
  | expectedItemEnd => "expected `,` or `]`"
  | expectedMemberEnd => "expected `,` or `\x7d`"
  | expectedKey => "key must be a string"
  | trailingComma => "trailing comma"
  | trailingCharacters => "trailing characters"
  | invalidNumber => "invalid number"
  | invalidEscape => "invalid escape"
  | controlCharacter => "control character (\\u0000-\\u001F) found while parsing a string"

/-- What is due at a place of a text. -/
inductive Due where
  /-- A value, alone or behind a colon. -/
  | value
  /-- The first item of an array, or its end. -/
  | firstItem
  /-- The item behind a comma. -/
  | nextItem
  /-- What follows an item. -/
  | itemEnd
  /-- The first key of an object, or its end. -/
  | firstKey
  /-- The key behind a comma. -/
  | nextKey
  /-- The colon behind a key. -/
  | colon
  /-- What follows a member. -/
  | memberEnd
deriving DecidableEq, Repr

def Due.startsValue : Due → Bool
  | value => true
  | firstItem => true
  | nextItem => true
  | _ => false

/-- What stands at a place of a text. -/
inductive Standing where
  | textEnd
  | token (t : Token)
  | unreadable (fault : LexicalFault)
deriving DecidableEq, Repr

/-- A place where a text stops being JSON. -/
structure Fault where
  due : Due
  standing : Standing
  /-- Whether the place lies in a value that was passed over. -/
  passed : Bool
deriving DecidableEq, Repr

def LiteralBreak.error : LiteralBreak → GrammarError
  | textEnd => .endInString
  | controlCharacter => .controlCharacter
  | unknownEscape => .invalidEscape
  | invalidCode => .invalidEscape

/-- The error of what stands where a value has to start, in passing. -/
def LexicalFault.passedError : LexicalFault → GrammarError
  | noToken => .expectedValue
  | word true => .endInValue
  | word false => .expectedWord
  | numeral _ => .invalidNumber
  | literal broken => broken.problem.error

/-- The error of what stands where a value has to start, in passing. -/
def Standing.passedError : Standing → GrammarError
  | textEnd => .endInValue
  | token _ => .expectedValue
  | unreadable fault => fault.passedError

/-- The error of what stands where a key has to start, in passing. -/
def Standing.passedKeyError : Standing → GrammarError
  | textEnd => .endInObject
  | unreadable (.literal broken) => broken.problem.error
  | _ => .expectedKey

/-- The error of what stands where only one thing may follow, given the two errors that can
arise. -/
def Standing.followError (atEnd other : GrammarError) : Standing → GrammarError
  | textEnd => atEnd
  | _ => other

def Fault.passedError (f : Fault) : GrammarError :=
  match f.due with
  | .value => f.standing.passedError
  | .firstItem => if f.standing = .textEnd then .endInList else f.standing.passedError
  | .nextItem => f.standing.passedError
  | .itemEnd => f.standing.followError .endInList .expectedItemEnd
  | .firstKey => f.standing.passedKeyError
  | .nextKey => f.standing.passedKeyError
  | .colon => f.standing.followError .endInObject .expectedColon
  | .memberEnd => f.standing.followError .endInObject .expectedMemberEnd

end HeaderBindings.Json
