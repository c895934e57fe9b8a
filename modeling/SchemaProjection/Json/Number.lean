import SchemaProjection.Number.Numeral
import SchemaProjection.Number.Shortest

/-!
# Numbers of a JSON text

A number without fraction and exponent is an integer while it
fits 64 bits; every other number is the double that `significand · 10 ^ scale` gives in double
arithmetic, where the significand is as many of the leading digits as fit 64 bits.
-/
namespace SchemaProjection.Json

open SchemaProjection.Number (Double twoPow digitValue digitsValue signedValue)

/-- The parts of a number, each a run of digits. -/
structure Number where
  /-- The number begins with a minus sign. -/
  negative : Bool
  /-- The digits before the point. -/
  whole : List Char
  /-- The digits after the point, none when there is no point. -/
  fraction : List Char
  /-- The digits of the exponent and whether it is negative. -/
  exponent : Option (Bool × List Char)
deriving Repr, DecidableEq

namespace Number

/-- The greatest 64-bit number. -/
def maxWord : Nat := twoPow 64 - 1

/-- Append digits to a significand while it fits 64 bits, and return the digits left over. -/
def extend (significand : Nat) : List Char → Nat × List Char
  | [] => (significand, [])
  | digit :: rest =>
    let longer := significand * 10 + digitValue digit
    if longer > maxWord then (significand, digit :: rest) else extend longer rest

/-- The greatest power of ten with a double. -/
def maxPower : Nat := 308

/-- Multiply or divide a double by a power of ten; no number results past the largest one. -/
def scaled (value : Double) (scale : Int) : Option Double :=
  if scale.natAbs ≤ maxPower then
    let power := Double.ofDecimal false 1 scale.natAbs
    if scale ≥ 0 then
      match value.times power with
      | .infinite _ => none
      | product => some product
    else some (value.dividedBy power)
  else if value.isZero then some value
  else if scale ≥ 0 then none
  else scaled (value.dividedBy (Double.ofDecimal false 1 maxPower)) (scale + maxPower)
termination_by scale.natAbs
decreasing_by simp only [maxPower] at *; omega

/-- What a number means. -/
inductive Meaning where
  /-- An integer that fits 64 bits. -/
  | integer (value : Int)
  /-- A double. -/
  | double (value : Double)
deriving Repr, DecidableEq

/-- What a number means, nothing when it is out of range. -/
def meaning? (number : Number) : Option Meaning :=
  let (significand, left) := extend 0 number.whole
  if number.fraction.isEmpty && number.exponent.isNone && left.isEmpty &&
      (!number.negative || (0 < significand && significand ≤ twoPow 63)) then
    some (.integer (signedValue number.negative significand))
  else
    let (significand, fractionLeft) := extend significand number.fraction
    let shift : Int := (left.length : Int) - (number.fraction.length - fractionLeft.length)
    let exponent : Int := match number.exponent with
      | none => 0
      | some (negative, digits) => signedValue negative (digitsValue digits)
    let start := Double.ofRatio false significand 1
    (scaled start (shift + exponent)).map fun value => .double (value.withSign number.negative)

/-- The words that name a meaning in a fault. -/
def Meaning.words : Meaning → String
  | .integer value => "integer \x60" ++ toString value ++ "\x60"
  | .double value => "floating point \x60" ++ value.compact ++ "\x60"

/-- The words that name a number in a fault, none when it is out of range. -/
def description (number : Number) : Option String := number.meaning?.map Meaning.words

end Number

end SchemaProjection.Json
