/-!
# Machine words

The machine integers that values are stored in, and words of a number of bits
that are read with or without a sign. Narrowing an integer to a word truncates it
in two's complement; the checked form refuses integers that the word does not
read back as.
-/

namespace HeaderBindings

/-- A machine integer. -/
inductive Primitive where
  | int8
  | uint8
  | int16
  | uint16
  | int32
  | uint32
  | int64
  | uint64
deriving DecidableEq, Repr

namespace Primitive

def bits : Primitive → Nat
  | int8 | uint8 => 8
  | int16 | uint16 => 16
  | int32 | uint32 => 32
  | int64 | uint64 => 64

def signed : Primitive → Bool
  | int8 | int16 | int32 | int64 => true
  | uint8 | uint16 | uint32 | uint64 => false

end Primitive

/-- A word of a number of bits, read with or without a sign. -/
structure Word (bits : Nat) (signed : Bool) where
  raw : BitVec bits
deriving DecidableEq, Repr

namespace Word

variable {bits : Nat} {signed : Bool}

/-- The integer that a word stands for. -/
def value (w : Word bits signed) : Int :=
  if signed then w.raw.toInt else w.raw.toNat

def truncate (bits : Nat) (signed : Bool) (value : Int) : Word bits signed :=
  ⟨BitVec.ofInt bits value⟩

/-- The word that stands for an integer, if there is one. -/
def ofInt? (bits : Nat) (signed : Bool) (value : Int) : Option (Word bits signed) :=
  if (truncate bits signed value).value = value then some (truncate bits signed value) else none

end Word

end HeaderBindings
