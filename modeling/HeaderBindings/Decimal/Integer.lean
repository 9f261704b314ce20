/-!
# Decimal integers

The decimal text of an integer has no leading zeros, no plus sign and no negative
zero. Reading is more lenient: a sign of either kind and leading zeros are taken.
-/

namespace HeaderBindings.Decimal

def digitChar (d : Nat) : Char :=
  Char.ofNat (0x30 + d)

def digitValue (c : Char) : Nat :=
  c.toNat - 0x30

/-- The decimal digits of a natural number, most significant first. -/
def natDigits (n : Nat) : List Char :=
  if n < 10 then [digitChar n] else natDigits (n / 10) ++ [digitChar (n % 10)]
termination_by n

def ofNat (n : Nat) : String :=
  String.ofList (natDigits n)

/-- The decimal digits of an integer, with a minus sign if it is negative. -/
def intDigits : Int → List Char
  | .ofNat n => natDigits n
  | .negSucc n => '-' :: natDigits (n + 1)

def ofInt (i : Int) : String :=
  String.ofList (intDigits i)

def natOfDigits (digits : List Char) : Nat :=
  digits.foldl (fun n c => 10 * n + digitValue c) 0

/-- Reads a non-empty sequence of digits. -/
def readNat? (digits : List Char) : Option Nat :=
  if !digits.isEmpty && digits.all Char.isDigit then some (natOfDigits digits) else none

/-- Reads digits after an optional sign. -/
def readInt? : List Char → Option Int
  | '+' :: digits => (readNat? digits).map Int.ofNat
  | '-' :: digits => (readNat? digits).map fun n => -Int.ofNat n
  | digits => (readNat? digits).map Int.ofNat

/-- Whether an integer is held by 128 bits in two's complement. -/
def fits128 (i : Int) : Bool :=
  -(Nat.pow 2 127 : Int) ≤ i && i < (Nat.pow 2 127 : Int)

/-- Reads an integer of at most 128 bits. -/
def readInt128? (s : String) : Option Int :=
  (readInt? s.toList).filter fits128

end HeaderBindings.Decimal
