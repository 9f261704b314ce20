import HeaderBindings.Json.Fault

/-!
# JSON values

A value keeps what its text says: members in order and with repetitions, string
literals and numerals as written. Values are built from tokens by a machine that
takes one token at a time and keeps the open containers on a stack, so nesting
may be as deep as the text is long. A text that stops being JSON still has a
value, which goes as far as the text does and ends in the fault.
-/

namespace HeaderBindings.Json

mutual

inductive Value where
  | null
  | bool (value : Bool)
  | numeral (value : Numeral)
  | literal (value : Literal)
  | array (items : List Value)
  | object (members : List Member)
  /-- Where the text stops being JSON. -/
  | broken (fault : Fault)

inductive Member where
  | mk (key : Literal) (value : Value)
  /-- Where the text stops being JSON. -/
  | broken (fault : Fault)

end

def Value.ofString (s : String) : Value :=
  .literal (.encode s)

def Value.ofInt (i : Int) : Value :=
  .numeral (.ofInt i)

/-- A member with a text for its key. -/
def member (key : String) (value : Value) : Member :=
  .mk (.encode key) value

/-- A container that is still open: what it holds so far, in reverse, and for an object the key
whose value is awaited. -/
inductive Frame where
  | array (items : List Value)
  | object (members : List Member) (key : Literal)

/-- What the next token may be. -/
inductive Expected where
  /-- A value. -/
  | value
  /-- A value, or the end of an array without items. -/
  | itemOrEnd
  /-- A key, or the end of an object without members. -/
  | keyOrEnd
  /-- A key; the members so far are given in reverse. -/
  | key (members : List Member)
  /-- The colon after a key; the members before it are given in reverse. -/
  | colon (members : List Member) (key : Literal)
  /-- What may follow a complete value. -/
  | after (value : Value)

/-- The state between two tokens. -/
structure Build where
  expected : Expected
  stack : List Frame

namespace Build

/-- Takes a token where a value has to start. -/
def start (stack : List Frame) : Token → Option Build
  | .null => some ⟨.after .null, stack⟩
  | .bool b => some ⟨.after (.bool b), stack⟩
  | .numeral n => some ⟨.after (.numeral n), stack⟩
  | .literal l => some ⟨.after (.literal l), stack⟩
  | .openBracket => some ⟨.itemOrEnd, .array [] :: stack⟩
  | .openBrace => some ⟨.keyOrEnd, stack⟩
  | _ => none

/-- Takes a token behind a complete value. -/
def follow (value : Value) : List Frame → Token → Option Build
  | .array items :: stack, .comma => some ⟨.value, .array (value :: items) :: stack⟩
  | .array items :: stack, .closeBracket =>
    some ⟨.after (.array (value :: items).reverse), stack⟩
  | .object members key :: stack, .comma => some ⟨.key (.mk key value :: members), stack⟩
  | .object members key :: stack, .closeBrace =>
    some ⟨.after (.object (.mk key value :: members).reverse), stack⟩
  | _, _ => none

/-- Takes one token, if it may stand here. -/
def step (b : Build) (token : Token) : Option Build :=
  match b.expected, token with
  | .value, _ => start b.stack token
  | .itemOrEnd, .closeBracket => some ⟨.after (.array []), b.stack.tail⟩
  | .itemOrEnd, _ => start b.stack token
  | .keyOrEnd, .closeBrace => some ⟨.after (.object []), b.stack⟩
  | .keyOrEnd, .literal l => some ⟨.colon [] l, b.stack⟩
  | .key members, .literal l => some ⟨.colon members l, b.stack⟩
  | .colon members l, .colon => some ⟨.value, .object members l :: b.stack⟩
  | .after value, _ => follow value b.stack token
  | _, _ => none

/-- What is due where the text goes on. -/
def due (b : Build) : Due :=
  match b.expected, b.stack with
  | .value, .array _ :: _ => .nextItem
  | .value, _ => .value
  | .itemOrEnd, _ => .firstItem
  | .keyOrEnd, _ => .firstKey
  | .key _, _ => .nextKey
  | .colon _ _, _ => .colon
  | .after _, .array _ :: _ => .itemEnd
  | .after _, _ => .memberEnd

/-- The member that ends an object whose last value holds a fault. It is met only by a reader that
passes over that value. -/
def passedMember (fault : Fault) : Member :=
  .broken { fault with passed := true }

/-- Puts a value that ends in a fault into the containers that are open around it. -/
def enclose (fault : Fault) (value : Value) : List Frame → Value
  | [] => value
  | .array items :: stack => enclose fault (.array (value :: items).reverse) stack
  | .object members key :: stack =>
    enclose fault (.object (passedMember fault :: .mk key value :: members).reverse) stack

/-- The value so far, which ends in a fault. -/
def abandon (b : Build) (fault : Fault) : Value :=
  match b.expected, b.stack with
  | .value, stack => enclose fault (.broken fault) stack
  | .itemOrEnd, stack => enclose fault (.broken fault) stack
  | .keyOrEnd, stack => enclose fault (.object [.broken fault]) stack
  | .key members, stack => enclose fault (.object (.broken fault :: members).reverse) stack
  | .colon members key, stack =>
    enclose fault (.object (passedMember fault :: .mk key (.broken fault) :: members).reverse) stack
  | .after value, .array items :: stack =>
    enclose fault (.array (.broken fault :: value :: items).reverse) stack
  | .after value, .object members key :: stack =>
    enclose fault (.object (.broken fault :: .mk key value :: members).reverse) stack
  | .after value, [] => value

end Build

/-- How the text of a value ends. -/
inductive Ending where
  /-- Nothing but separators follows the value. -/
  | complete
  /-- Something else follows the value. -/
  | trailing
  /-- The text stops being JSON before the value is complete. -/
  | broken (fault : Fault)
deriving DecidableEq, Repr

/-- The value of a text, as far as the text goes. -/
structure Reading where
  value : Value
  ending : Ending

/-- The reading that a state leads to if the machine cannot go on with what stands there. -/
def Build.finish (b : Build) (standing : Standing) : Reading :=
  match b.expected, b.stack with
  | .after value, [] => ⟨value, if standing = .textEnd then .complete else .trailing⟩
  | _, _ =>
    let fault : Fault := ⟨b.due, standing, false⟩
    ⟨b.abandon fault, .broken fault⟩

/-- Takes tokens as long as they may stand where they do; `behind` is what stands behind them. -/
def Build.run (b : Build) (behind : Standing) : List Token → Reading
  | [] => b.finish behind
  | token :: rest =>
    match b.step token with
    | some next => next.run behind rest
    | none => b.finish (.token token)

def Reading.ofText (s : String) : Reading :=
  let lexed := Lexed.ofText s
  Build.run ⟨.value, []⟩ ((lexed.fault.map Standing.unreadable).getD .textEnd) lexed.tokens

/-- The value of a text, if the text is well formed. -/
def Value.parse? (s : String) : Option Value :=
  match Reading.ofText s with
  | ⟨value, .complete⟩ => some value
  | _ => none

end HeaderBindings.Json
