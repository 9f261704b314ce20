/-!
# String literals

A string literal is kept as it is written between its quotes. `encode` writes a
text as a literal and `decode` gives a literal its text. An escape may name half
of a surrogate pair, so a well-formed literal need not have a text: the two
halves have to stand side by side. A literal that breaks off is kept as far as
it is well formed, beside what breaks it off.
-/

namespace HeaderBindings.Json

/-- What a string literal holds between its quotes, escapes included. -/
structure Literal where
  body : List Char
deriving DecidableEq, Repr

/-- Why a well-formed literal has no text. -/
inductive LiteralFault where
  /-- The first half of a pair is not followed by an escaped code. -/
  | unfinishedPair
  /-- A half of a pair stands without its counterpart. -/
  | loneSurrogate
deriving DecidableEq, Repr

/-- What breaks a literal off before its closing quote. -/
inductive LiteralBreak where
  | textEnd
  | controlCharacter
  /-- A backslash in front of a letter that is no escape. -/
  | unknownEscape
  /-- An escaped code with a character that is no hexadecimal digit. -/
  | invalidCode
deriving DecidableEq, Repr

/-- A literal that breaks off. -/
structure BrokenLiteral where
  body : List Char
  problem : LiteralBreak
deriving DecidableEq, Repr

/-- The digit character of a number below sixteen, in lower case. -/
def hexChar (d : Nat) : Char :=
  if d < 10 then Char.ofNat (0x30 + d) else Char.ofNat (0x57 + d)

/-- The value of a hexadecimal digit of either case. -/
def hexValue? (c : Char) : Option Nat :=
  if c.isDigit then some (c.toNat - 0x30)
  else if 'a' ≤ c && c ≤ 'f' then some (c.toNat - 0x57)
  else if 'A' ≤ c && c ≤ 'F' then some (c.toNat - 0x37)
  else none

/-- The code of four hexadecimal digits. -/
def hexCode (a b c d : Char) : Nat :=
  [a, b, c, d].foldl (fun n digit => 16 * n + (hexValue? digit).getD 0) 0

/-- The character that a one-letter escape stands for. -/
def shortEscape? : Char → Option Char
  | '"' => some '"'
  | '\\' => some '\\'
  | '/' => some '/'
  | 'b' => some '\x08'
  | 'f' => some '\x0c'
  | 'n' => some '\n'
  | 'r' => some '\r'
  | 't' => some '\t'
  | _ => none

/-- A character as it is written in a literal: quotes, backslashes and control characters are
escaped, all else stands for itself. -/
def encodeChar (c : Char) : List Char :=
  match c with
  | '"' => ['\\', '"']
  | '\\' => ['\\', '\\']
  | '\x08' => ['\\', 'b']
  | '\t' => ['\\', 't']
  | '\n' => ['\\', 'n']
  | '\x0c' => ['\\', 'f']
  | '\r' => ['\\', 'r']
  | c =>
    if c.toNat < 0x20 then
      ['\\', 'u', '0', '0', hexChar (c.toNat / 16), hexChar (c.toNat % 16)]
    else
      [c]

def Literal.encode (s : String) : Literal :=
  ⟨s.toList.flatMap encodeChar⟩

/-- Whether a code is the first half of a pair. -/
def isLeadingSurrogate (n : Nat) : Bool :=
  0xD800 ≤ n && n ≤ 0xDBFF

/-- Whether a code is the second half of a pair. -/
def isTrailingSurrogate (n : Nat) : Bool :=
  0xDC00 ≤ n && n ≤ 0xDFFF

/-- The character that a pair of halves stands for. -/
def pairedChar (leading trailing : Nat) : Char :=
  Char.ofNat (0x10000 + (leading - 0xD800) * 0x400 + (trailing - 0xDC00))

/-- Reads the body of a literal. The characters read so far are held in reverse, and `pending` is
the first half of a pair that waits for its second. What is pending at the end is returned beside
the characters. -/
def decodeFrom (done : List Char) (pending : Option Nat) :
    List Char → Except LiteralFault (List Char × Option Nat)
  | [] => .ok (done.reverse, pending)
  | '\\' :: 'u' :: a :: b :: c :: d :: rest =>
    let code := hexCode a b c d
    match pending with
    | some leading =>
      if isTrailingSurrogate code then decodeFrom (pairedChar leading code :: done) none rest
      else .error .loneSurrogate
    | none =>
      if isTrailingSurrogate code then .error .loneSurrogate
      else if isLeadingSurrogate code then decodeFrom done (some code) rest
      else decodeFrom (Char.ofNat code :: done) none rest
  | '\\' :: letter :: rest =>
    if pending.isSome then .error .unfinishedPair
    else decodeFrom ((shortEscape? letter).getD letter :: done) none rest
  | c :: rest =>
    if pending.isSome then .error .unfinishedPair else decodeFrom (c :: done) none rest

def Literal.decode (l : Literal) : Except LiteralFault String :=
  match decodeFrom [] none l.body with
  | .error fault => .error fault
  | .ok (_, some _) => .error .unfinishedPair
  | .ok (cs, none) => .ok (String.ofList cs)

/-- Why a literal that breaks off has no text, if that shows before the break. A first half of a
pair in front of the break shows it unless the text ends or an escaped code follows. -/
def BrokenLiteral.fault? (b : BrokenLiteral) : Option LiteralFault :=
  match decodeFrom [] none b.body with
  | .error fault => some fault
  | .ok (_, none) => none
  | .ok (_, some _) =>
    match b.problem with
    | .controlCharacter => some .unfinishedPair
    | .unknownEscape => some .unfinishedPair
    | .textEnd => none
    | .invalidCode => none

end HeaderBindings.Json
