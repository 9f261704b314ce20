import HeaderBindings.NameMap
import HeaderBindings.Text.Line

/-!
# Identifiers of an artifact

An identifier is a maximal run of ASCII letters, digits and underscores that does
not start with a digit. Other characters of any kind separate identifiers.
-/

namespace HeaderBindings.Artifact

/-- An identifier on a line: where it starts, in bytes, how it is spelled and what stands behind it
on the line. -/
structure Identifier where
  offset : Nat
  text : String
  after : List Char
deriving DecidableEq, Repr

/-- Whether a character may be part of an identifier. -/
def isWordChar (c : Char) : Bool :=
  c.isAlphanum || c == '_'

/-- The identifier that a run of word characters is, if any. The run is held in reverse and ends at
the given offset. -/
def ofRun (run : List Char) (ending : Nat) (after : List Char) : List Identifier :=
  match run.reverse with
  | [] => []
  | first :: others =>
    if first.isDigit then []
    else [⟨ending - run.length, String.ofList (first :: others), after⟩]

/-- The identifiers of the characters from an offset on; the run that ends there is held in
reverse. -/
def identifiersFrom (offset : Nat) (run : List Char) : List Char → List Identifier
  | [] => ofRun run offset []
  | c :: rest =>
    if isWordChar c then identifiersFrom (offset + c.utf8Size) (c :: run) rest
    else ofRun run offset (c :: rest) ++ identifiersFrom (offset + c.utf8Size) [] rest

def identifiers (line : List Char) : List Identifier :=
  identifiersFrom 0 [] line

/-- The identifiers of lines with their line numbers, the first of which is given. -/
def numberedFrom (number : Nat) : List (List Char) → List (String × Nat)
  | [] => []
  | line :: rest =>
    (identifiers line).map (fun w => (w.text, number)) ++ numberedFrom (number + 1) rest

/-- The identifiers of a text with the line on which each occurs first. Lines are counted from
one. -/
def firstLines (text : String) : NameMap Nat :=
  NameMap.ofListFirst (numberedFrom 1 (Text.lines text))

end HeaderBindings.Artifact
