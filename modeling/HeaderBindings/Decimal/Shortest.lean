import HeaderBindings.Decimal.Binary64
import HeaderBindings.Decimal.Integer

/-!
# Shortest decimal text

A magnitude is written with the fewest digits that round back to it; of several
such digit strings the nearest one is taken, and of two that are equally near the
even one. `Style` holds the decisions of the written form, and `Style.report` is
the form that messages use.
-/

namespace HeaderBindings.Decimal

/-- Digits `coefficient` scaled by a power of ten. -/
structure Scaled where
  coefficient : Nat
  exponent : Int
deriving DecidableEq, Repr

/-- The power of ten with a natural exponent, and one for a negative exponent. -/
def tenScale (e : Int) : Nat :=
  Nat.pow 10 e.toNat

/-- The exponent of the greatest power of ten that is at most `n / d`, both positive. -/
def leadingTenExponent (n d : Nat) : Int :=
  if d ≤ n then
    ((natDigits (n / d)).length : Int) - 1
  else
    let length := (natDigits (d / n)).length
    if d ≤ n * Nat.pow 10 (length - 1) then 1 - (length : Int) else -(length : Int)

/-- Four times the lower and the upper end of the reals that round to a magnitude, in units of its
power of two. The gap below a power of two is half as wide. -/
def roundingEnds (x : Binary64) : Nat × Nat :=
  let below := if x.mantissa == Nat.pow 2 52 && x.exponent != Binary64.leastExponent then 1 else 2
  (4 * x.mantissa - below, 4 * x.mantissa + 2)

/-- Whether a scaled decimal rounds to a magnitude. The ends belong to it if its mantissa is
even. -/
def roundsTo (x : Binary64) (s : Scaled) : Bool :=
  let n := 4 * (s.coefficient * tenScale s.exponent) * x.denominator
  let unit := tenScale (-s.exponent) * Binary64.scale x.exponent
  let ends := roundingEnds x
  if x.mantissa % 2 == 0 then ends.1 * unit ≤ n && n ≤ ends.2 * unit
  else ends.1 * unit < n && n < ends.2 * unit

/-- The decimal of `count` digits that rounds to a positive magnitude and is nearest to it. If the
decimals below and above both round to it and are equally near, the even one is taken. -/
def nearestOfLength? (x : Binary64) (count : Nat) : Option Scaled :=
  let n := x.numerator
  let d := x.denominator
  let exponent := leadingTenExponent n d - count + 1
  let top := n * tenScale (-exponent)
  let bottom := d * tenScale exponent
  let low : Scaled := ⟨top / bottom, exponent⟩
  let high : Scaled := ⟨top / bottom + 1, exponent⟩
  match roundsTo x low, roundsTo x high with
  | true, true => some ⟨Binary64.roundQuotient top bottom, exponent⟩
  | true, false => some low
  | false, true => some high
  | false, false => none

/-- Removes zeros from the end of the digits; `fuel` bounds their number. -/
def stripZeros : Nat → Scaled → Scaled
  | 0, s => s
  | fuel + 1, s =>
    if s.coefficient % 10 == 0 && s.coefficient != 0 then
      stripZeros fuel ⟨s.coefficient / 10, s.exponent + 1⟩
    else
      s

/-- The number of digits that always suffices. -/
def sufficientDigits : Nat := 17

/-- The fewest digits that round back to a magnitude. -/
def shortest (x : Binary64) : Scaled :=
  if x.mantissa == 0 then
    ⟨0, 0⟩
  else
    match (List.range sufficientDigits).findSome? fun i => nearestOfLength? x (i + 1) with
    | some s => stripZeros (sufficientDigits + 1) s
    | none => ⟨0, 0⟩

/-- How digits are laid out as text. -/
structure Style where
  /-- The least exponent of the first digit that is written positionally. -/
  leastPositional : Int
  /-- The greatest exponent of the first digit that is written positionally. -/
  greatestPositional : Int
  /-- The mark in front of an exponent that is not negative. -/
  positiveExponent : List Char

/-- Messages write magnitudes from `0.00001` up to sixteen digits before the point positionally,
and give other exponents a sign of either kind. -/
def Style.report : Style := ⟨-5, 15, ['e', '+']⟩

/-- The digits of a positional number whose first digit has the given exponent. -/
def positional (digits : List Char) (first : Int) : List Char :=
  if first < 0 then
    ['0', '.'] ++ List.replicate (first.natAbs - 1) '0' ++ digits
  else
    let whole := first.toNat + 1
    if digits.length ≤ whole then
      digits ++ List.replicate (whole - digits.length) '0' ++ ['.', '0']
    else
      digits.take whole ++ '.' :: digits.drop whole

/-- The digits of a number with an exponent. -/
def Style.exponential (style : Style) (digits : List Char) (first : Int) : List Char :=
  let mantissa :=
    match digits with
    | [] => []
    | [d] => [d]
    | d :: more => d :: '.' :: more
  let exponent :=
    if first < 0 then 'e' :: intDigits first else style.positiveExponent ++ intDigits first
  mantissa ++ exponent

def Style.magnitude (style : Style) (x : Binary64) : List Char :=
  let s := shortest x
  let digits := natDigits s.coefficient
  let first := s.exponent + digits.length - 1
  if style.leastPositional ≤ first && first ≤ style.greatestPositional then
    positional digits first
  else
    style.exponential digits first

end HeaderBindings.Decimal
