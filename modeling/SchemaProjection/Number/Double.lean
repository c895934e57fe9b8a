/-!
# Double precision numbers

A finite double is a sign and `mantissa · 2 ^ exponent` with a mantissa below `2 ^ 53` and an
exponent from -1074 to 971. Every operation here takes the exact result as a quotient of
natural numbers and rounds it once, to the nearest double and on a tie to the even mantissa.
-/
namespace SchemaProjection.Number

/-- A power of two. -/
def twoPow (exponent : Nat) : Nat := Nat.pow 2 exponent

/-- A power of ten. -/
def tenPow (exponent : Nat) : Nat := Nat.pow 10 exponent

/-- A number of the double format. -/
inductive Double where
  /-- `mantissa · 2 ^ exponent` with a sign. -/
  | finite (negative : Bool) (mantissa : Nat) (exponent : Int)
  /-- Past the largest finite number. -/
  | infinite (negative : Bool)
  /-- No number. -/
  | undefined
deriving Repr, DecidableEq

namespace Double

/-- The least exponent of a finite number. -/
def minExponent : Int := -1074

/-- The greatest exponent of a finite number. -/
def maxExponent : Int := 971

/-- A quotient rounded to the nearest natural number, on a tie to the even one. -/
def roundDiv (numerator denominator : Nat) : Nat :=
  let quotient := numerator / denominator
  let twice := 2 * (numerator % denominator)
  if twice < denominator || (twice == denominator && quotient % 2 == 0) then quotient
  else quotient + 1

/-- The quotient of `numerator` by `denominator · 2 ^ exponent`, rounded. -/
def roundScaled (numerator denominator : Nat) (exponent : Int) : Nat :=
  if exponent ≥ 0 then roundDiv numerator (denominator * twoPow exponent.toNat)
  else roundDiv (numerator * twoPow (-exponent).toNat) denominator

/-- The exponent at which the mantissa of a quotient has 53 bits, or the least exponent if that
is greater. -/
def exponentOf (numerator denominator : Nat) : Int :=
  let estimate : Int := (numerator.log2 : Int) - denominator.log2 - 52
  let reaches (exponent : Int) : Bool :=
    if exponent ≥ 0 then denominator * twoPow exponent.toNat * twoPow 52 ≤ numerator
    else denominator * twoPow 52 ≤ numerator * twoPow (-exponent).toNat
  max minExponent (if reaches estimate then estimate else estimate - 1)

/-- The double nearest to a quotient. -/
def ofRatio (negative : Bool) (numerator denominator : Nat) : Double :=
  if numerator == 0 then .finite negative 0 minExponent
  else
    let exponent := exponentOf numerator denominator
    let mantissa := roundScaled numerator denominator exponent
    let (mantissa, exponent) :=
      if mantissa == twoPow 53 then (twoPow 52, exponent + 1) else (mantissa, exponent)
    if exponent > maxExponent then .infinite negative else .finite negative mantissa exponent

/-- The numerator of a finite magnitude as a quotient. -/
def numerator (mantissa : Nat) (exponent : Int) : Nat := mantissa * twoPow exponent.toNat

/-- The denominator of a finite magnitude as a quotient. -/
def denominator (exponent : Int) : Nat := twoPow (-exponent).toNat

/-- The double nearest to `digits · 10 ^ scale`. -/
def ofDecimal (negative : Bool) (digits : Nat) (scale : Int) : Double :=
  let size : Int := (Nat.toDigits 10 digits).length + scale
  if digits == 0 then .finite negative 0 minExponent
  else if size > 310 then .infinite negative
  else if size < -330 then .finite negative 0 minExponent
  else if scale ≥ 0 then ofRatio negative (digits * tenPow scale.toNat) 1
  else ofRatio negative digits (tenPow (-scale).toNat)

/-- Zero of either sign. -/
def isZero : Double → Bool
  | .finite _ mantissa _ => mantissa == 0
  | _ => false

/-- The product of two magnitudes. -/
def times : Double → Double → Double
  | .finite _ left leftExponent, .finite _ right rightExponent =>
    ofRatio false (numerator left leftExponent * numerator right rightExponent)
      (denominator leftExponent * denominator rightExponent)
  | _, _ => .infinite false

/-- The quotient of two magnitudes, of which the second is not zero. -/
def dividedBy : Double → Double → Double
  | .finite _ left leftExponent, .finite _ right rightExponent =>
    ofRatio false (numerator left leftExponent * denominator rightExponent)
      (denominator leftExponent * numerator right rightExponent)
  | _, _ => .infinite false

/-- A number with the given sign. -/
def withSign (negative : Bool) : Double → Double
  | .finite _ mantissa exponent => .finite negative mantissa exponent
  | .infinite _ => .infinite negative
  | .undefined => .undefined

end Double

end SchemaProjection.Number
