import HeaderBindings.Json.Basic

/-!
# Printing JSON

Two layouts: compact, without any separators, and pretty, with one item or member
to a line, two spaces of indentation for each container and a space after the
colon. An empty container is written without a line break in both. Nothing is
written for a fault.
-/

namespace HeaderBindings.Json

/-- A literal in its quotes. -/
def Literal.text (l : Literal) : List Char :=
  '"' :: l.body ++ ['"']

mutual

def compactValue : Value → List Char
  | .null => ['n', 'u', 'l', 'l']
  | .bool true => ['t', 'r', 'u', 'e']
  | .bool false => ['f', 'a', 'l', 's', 'e']
  | .numeral n => n.text
  | .literal l => l.text
  | .array [] => ['[', ']']
  | .array (item :: rest) => '[' :: compactValue item ++ compactItems rest ++ [']']
  | .object [] => ['\x7b', '\x7d']
  | .object (m :: rest) => '\x7b' :: compactMember m ++ compactMembers rest ++ ['\x7d']
  | .broken _ => []

/-- The compact text of the items after the first. -/
def compactItems : List Value → List Char
  | [] => []
  | item :: rest => ',' :: compactValue item ++ compactItems rest

def compactMember : Member → List Char
  | .mk key value => key.text ++ ':' :: compactValue value
  | .broken _ => []

/-- The compact text of the members after the first. -/
def compactMembers : List Member → List Char
  | [] => []
  | m :: rest => ',' :: compactMember m ++ compactMembers rest

end

/-- A line break and the indentation of a container at the given depth. -/
def lineBreak (depth : Nat) : List Char :=
  '\n' :: List.replicate (2 * depth) ' '

mutual

/-- The pretty text of a value inside `depth` containers. -/
def prettyValue (depth : Nat) : Value → List Char
  | .null => ['n', 'u', 'l', 'l']
  | .bool true => ['t', 'r', 'u', 'e']
  | .bool false => ['f', 'a', 'l', 's', 'e']
  | .numeral n => n.text
  | .literal l => l.text
  | .array [] => ['[', ']']
  | .array (item :: rest) =>
    '[' :: lineBreak (depth + 1) ++ prettyValue (depth + 1) item ++ prettyItems (depth + 1) rest ++
      lineBreak depth ++ [']']
  | .object [] => ['\x7b', '\x7d']
  | .object (m :: rest) =>
    '\x7b' :: lineBreak (depth + 1) ++ prettyMember (depth + 1) m ++
      prettyMembers (depth + 1) rest ++ lineBreak depth ++ ['\x7d']
  | .broken _ => []

def prettyItems (depth : Nat) : List Value → List Char
  | [] => []
  | item :: rest => ',' :: lineBreak depth ++ prettyValue depth item ++ prettyItems depth rest

def prettyMember (depth : Nat) : Member → List Char
  | .mk key value => key.text ++ ':' :: ' ' :: prettyValue depth value
  | .broken _ => []

def prettyMembers (depth : Nat) : List Member → List Char
  | [] => []
  | m :: rest => ',' :: lineBreak depth ++ prettyMember depth m ++ prettyMembers depth rest

end

def Value.compact (v : Value) : String :=
  String.ofList (compactValue v)

def Value.pretty (v : Value) : String :=
  String.ofList (prettyValue 0 v)

end HeaderBindings.Json
