/-!
# Binary floating-point magnitudes

A finite magnitude of 64-bit binary floating point is a whole number of at most
53 bits times a power of two. Sums of powers of ten do not land on this grid, so
products and quotients are rounded to the nearest point, ties to the even one.
All arithmetic is exact arithmetic on natural numbers.
-/

namespace HeaderBindings.Decimal

/-- The magnitude `mantissa * 2 ^ exponent`. -/
structure Binary64 where
  mantissa : Nat
  exponent : Int
deriving DecidableEq, Repr

namespace Binary64

def leastExponent : Int := -1074

def greatestExponent : Int := 971

/-- The power of two with a natural exponent, and one for a negative exponent. -/
def scale (e : Int) : Nat :=
  Nat.pow 2 e.toNat

/-- The quotient of two numbers rounded to the nearest whole number, ties to the even one. -/
def roundQuotient (n d : Nat) : Nat :=
  let quotient := n / d
  let rest := 2 * (n % d)
  if rest < d || (rest == d && quotient % 2 == 0) then quotient else quotient + 1

/-- The exponent of the greatest power of two that is at most `n / d`. -/
def leadingExponent (n d : Nat) : Int :=
  let guess : Int := (n.log2 : Int) - d.log2
  if d * scale guess ≤ n * scale (-guess) then guess else guess - 1

/-- The magnitude nearest to `n / d`, if it is not too great. -/
def ofRatio? (n d : Nat) : Option Binary64 :=
  if n == 0 then
    some ⟨0, leastExponent⟩
  else
    let exponent := max (leadingExponent n d - 52) leastExponent
    let mantissa := roundQuotient (n * scale (-exponent)) (d * scale exponent)
    let rounded : Binary64 :=
      if mantissa == Nat.pow 2 53 then ⟨Nat.pow 2 52, exponent + 1⟩ else ⟨mantissa, exponent⟩
    if rounded.exponent ≤ greatestExponent then some rounded else none

def numerator (x : Binary64) : Nat :=
  x.mantissa * scale x.exponent

def denominator (x : Binary64) : Nat :=
  scale (-x.exponent)

/-- The magnitude nearest to a natural number, if it is not too great. -/
def ofNat? (n : Nat) : Option Binary64 :=
  ofRatio? n 1

def mul? (x y : Binary64) : Option Binary64 :=
  ofRatio? (x.numerator * y.numerator) (x.denominator * y.denominator)

def div? (x y : Binary64) : Option Binary64 :=
  ofRatio? (x.numerator * y.denominator) (x.denominator * y.numerator)

/-- The greatest power of ten among the magnitudes. -/
def greatestPowerOfTen : Nat := 308

def powerOfTen? (e : Nat) : Option Binary64 :=
  ofNat? (Nat.pow 10 e)

/-- Divides `steps` times by the greatest power of ten, or until nothing is left. -/
def descend? : Nat → Binary64 → Option Binary64
  | 0, x => some x
  | steps + 1, x =>
    if x.mantissa == 0 then some x
    else ((powerOfTen? greatestPowerOfTen).bind x.div?).bind (descend? steps)

/-- Divides by a power of ten, in steps no longer than the greatest one. -/
def divPowerOfTen? (x : Binary64) (e : Nat) : Option Binary64 :=
  let steps := (e - 1) / greatestPowerOfTen
  (descend? steps x).bind fun y =>
    if y.mantissa == 0 then some y
    else (powerOfTen? (e - steps * greatestPowerOfTen)).bind y.div?

/-- The magnitude read from `significand * 10 ^ e`: the significand and the power of ten are each
rounded before they are combined. Too great a magnitude is refused. -/
def ofScientific? (significand : Nat) (e : Int) : Option Binary64 :=
  match ofNat? significand with
  | none => none
  | some x =>
    if e < 0 then divPowerOfTen? x e.natAbs
    else if x.mantissa == 0 then some x
    else if e.toNat ≤ greatestPowerOfTen then (powerOfTen? e.toNat).bind x.mul?
    else none

end Binary64

end HeaderBindings.Decimal
