import HeaderBindings.Decimal.Shortest

/-!
# Numerals

A numeral is kept as its parts. Its value is an integer if it is written without
fraction and exponent and lies between `-2 ^ 63` and `2 ^ 64 - 1`; negative zero
and everything else is a floating-point number. The significand of the latter
keeps the leading digits that fit 64 bits, and digits that follow only scale it.
-/

namespace HeaderBindings.Json

open HeaderBindings.Decimal

/-- The exponent of a numeral: its sign and digits. -/
structure Exponent where
  negative : Bool
  digits : List Char
deriving DecidableEq, Repr

/-- A number as it is written. The fraction is empty if there is no point. -/
structure Numeral where
  negative : Bool
  whole : List Char
  fraction : List Char
  exponent : Option Exponent
deriving DecidableEq, Repr

inductive Number where
  | integer (value : Int)
  | floating (negative : Bool) (magnitude : Binary64)
deriving DecidableEq, Repr

namespace Numeral

def ofInt (i : Int) : Numeral :=
  ⟨i < 0, natDigits i.natAbs, [], none⟩

/-- Takes digits into a significand as long as it fits 64 bits, and returns the digits left over. -/
def absorb (significand : Nat) : List Char → Nat × List Char
  | [] => (significand, [])
  | c :: rest =>
    let next := 10 * significand + digitValue c
    if next < Nat.pow 2 64 then absorb next rest else (significand, c :: rest)

/-- The power of ten that the exponent part stands for. -/
def writtenExponent (n : Numeral) : Int :=
  match n.exponent with
  | none => 0
  | some e => if e.negative then -(natOfDigits e.digits : Int) else natOfDigits e.digits

/-- The floating-point magnitude of a numeral, if it is not too great. -/
def magnitude? (n : Numeral) : Option Binary64 :=
  let whole := absorb 0 n.whole
  let fraction := absorb whole.1 n.fraction
  let taken := n.fraction.length - fraction.2.length
  Binary64.ofScientific? fraction.1 ((whole.2.length : Int) - taken + n.writtenExponent)

/-- The integer a numeral stands for, if it is one. -/
def integer? (n : Numeral) : Option Int :=
  let value := natOfDigits n.whole
  if !n.fraction.isEmpty || n.exponent.isSome then none
  else if n.negative then if value != 0 && value ≤ Nat.pow 2 63 then some (-(value : Int)) else none
  else if value < Nat.pow 2 64 then some value
  else none

/-- The value of a numeral; floating-point numbers that are too great have none. -/
def value? (n : Numeral) : Option Number :=
  match n.integer? with
  | some i => some (.integer i)
  | none => n.magnitude?.map (.floating n.negative)

def exponentText (e : Exponent) : List Char :=
  if e.negative then 'e' :: '-' :: e.digits else 'e' :: e.digits

def text (n : Numeral) : List Char :=
  (if n.negative then ['-'] else []) ++ n.whole ++
    (if n.fraction.isEmpty then [] else '.' :: n.fraction) ++
    (match n.exponent with
      | none => []
      | some e => exponentText e)

end Numeral

end HeaderBindings.Json
