import HeaderBindings.Artifact.Identifier
import HeaderBindings.IntegerType

/-!
# Storage that an artifact gives an enum

An artifact declares the storage of an enum in one of these forms:

* `enum Name : byte`;
* `enum Name` after an attribute such as `repr(u8)`, on the same line or on one
  of the three lines above;
* `type Name = u8`, where the type may be a path;
* `struct Name(u8)` or `struct Name(pub u8)`;
* `typedef uint8_t Name`.

The first line that declares the name with an integer type decides. Only the
first occurrence of the name on a line counts.
-/

namespace HeaderBindings.Artifact

/-- The integer storage of an enum, with its spelling and the line that declares it. -/
structure Storage where
  integerType : IntegerType
  spelling : String
  line : Nat
deriving DecidableEq, Repr

def isIntegerWord (word : String) : Bool :=
  (IntegerType.ofBindingName? word).isSome

/-- The first identifier with the given spelling, with those before it and those after it. -/
def splitAtWord (word : String) :
    List Identifier → Option (List Identifier × Identifier × List Identifier)
  | [] => none
  | w :: rest =>
    if w.text = word then some ([], w, rest)
    else (splitAtWord word rest).map fun (before, found, after) => (w :: before, found, after)

/-- The integer word that a representation attribute names. -/
def reprWord? (words : List Identifier) : Option String :=
  ((words.dropWhile (·.text != "repr")).tail.map (·.text)).find? isIntegerWord

/-- Whether the first character that is no blank is the given one. -/
def continuesWith (c : Char) (after : List Char) : Bool :=
  (Text.trimStart after).head? == some c

/-- How many lines above an enum may hold its representation attribute. -/
def attributeReach : Nat := 3

/-- The word that gives an enum its storage, on the line of an identifier. The lines above are held
with the nearest first. -/
def storageWord? (above : List (List Char)) (before : List Identifier) (found : Identifier)
    (later : List Identifier) : Option String :=
  match before.getLast?.map (·.text) with
  | none => none
  | some previous =>
    if previous = "enum" then
      if continuesWith ':' found.after then later.head?.map (·.text)
      else
        reprWord? before <|>
          (above.take attributeReach).findSome? fun line => reprWord? (identifiers line)
    else if previous = "type" ∧ continuesWith '=' found.after then
      (later.map (·.text)).find? isIntegerWord
    else if previous = "struct" ∧ continuesWith '(' found.after then
      match later.map (·.text) with
      | "pub" :: rest => rest.head?
      | words => words.head?
    else if before.head?.map (·.text) = some "typedef" ∧ later = [] then some previous
    else none

/-- The storage that one line declares for a name. -/
def lineStorage? (name : String) (number : Nat) (above : List (List Char)) (line : List Char) :
    Option Storage := do
  let (before, found, later) ← splitAtWord name (identifiers line)
  let spelling ← storageWord? above before found later
  let integerType ← IntegerType.ofBindingName? spelling
  return ⟨integerType, spelling, number⟩

/-- The first storage declared for a name on lines of which the first has the given number. -/
def storageFrom (name : String) (number : Nat) (above : List (List Char)) :
    List (List Char) → Option Storage
  | [] => none
  | line :: rest =>
    match lineStorage? name number above line with
    | some s => some s
    | none => storageFrom name (number + 1) (line :: above) rest

/-- The storage that a text declares for a name. -/
def storage? (text name : String) : Option Storage :=
  storageFrom name 1 [] (Text.lines text)

end HeaderBindings.Artifact
