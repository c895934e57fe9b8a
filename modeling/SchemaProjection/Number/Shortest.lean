import SchemaProjection.Number.Double

/-!
# Shortest decimal text

The decimal digits of a double are the fewest that read back as the same double, and among
those the nearest to it. A decimal reads back when it lies in the interval of the reals that
round to the double, whose ends belong to it exactly when the mantissa is even. Two layouts
are defined over the digits: `positional`, which writes every number without an exponent and
takes the greater of two decimals that are equally near, and `compact`, which writes numbers of
ordinary size with a fraction and the others with an exponent and takes the even one.
-/
namespace SchemaProjection.Number

/-- Decimal digits and the place of the point before them: `0.d₁d₂… · 10 ^ point`. -/
structure Decimal where
  /-- The digits, neither beginning nor ending in a zero. -/
  digits : List Char
  /-- The power of ten. -/
  point : Int
deriving Repr, DecidableEq

/-- Which of two decimals is taken that are equally near to a double. -/
inductive Tie where
  /-- The one whose last digit is even. -/
  | toEven
  /-- The greater one. -/
  | up
deriving Repr, DecidableEq

/-- Whether the lesser of two equally near decimals is taken. -/
def Tie.takesLesser (lesser : Nat) : Tie → Bool
  | .toEven => lesser % 2 == 0
  | .up => false

namespace Decimal

/-- The interval of a double over a common denominator: its lower end, its value, its upper end
and the denominator. -/
def interval (mantissa : Nat) (exponent : Int) : Nat × Nat × Nat × Nat :=
  let numerator := 4 * Double.numerator mantissa exponent
  let unit := Double.numerator 1 exponent
  let below := if mantissa == twoPow 52 && exponent > Double.minExponent then unit else 2 * unit
  (numerator - below, numerator, numerator + 2 * unit, 4 * Double.denominator exponent)

/-- The power of ten that is the first above a positive quotient. -/
def pointOf (numerator denominator : Nat) : Int :=
  ((Nat.toDigits 10 (numerator * tenPow 400 / denominator)).length : Int) - 400

/-- The decimal with `count` digits that reads back as the double, if one does, and of two the
nearer. -/
def candidate (tie : Tie) (mantissa : Nat) (exponent : Int) (count : Nat) :
    Option (Nat × Int) :=
  let (low, value, high, denominator) := interval mantissa exponent
  let point := pointOf value denominator
  let scale := point - count
  let up := if scale ≥ 0 then 1 else tenPow (-scale).toNat
  let down := if scale ≥ 0 then tenPow scale.toNat else 1
  let unit := down * denominator
  let lower := value * up / unit
  let inside (digits : Nat) : Bool :=
    let place := digits * unit
    if mantissa % 2 == 0 then low * up ≤ place && place ≤ high * up
    else low * up < place && place < high * up
  let twice := 2 * (value * up - lower * unit)
  let nearer := twice < unit || (twice == unit && tie.takesLesser lower)
  match inside lower, inside (lower + 1) with
  | true, true => some (if nearer then lower else lower + 1, scale)
  | true, false => some (lower, scale)
  | false, true => some (lower + 1, scale)
  | false, false => none

/-- The digits of a number without the zeros at its end. -/
def trimmed (digits : Nat) : List Char :=
  ((Nat.toDigits 10 digits).reverse.dropWhile (· == '0')).reverse

/-- The shortest decimal of a positive double. -/
def shortest (tie : Tie) (mantissa : Nat) (exponent : Int) : Decimal :=
  let counts := (List.range 17).map (· + 1)
  match counts.findSome? (candidate tie mantissa exponent) with
  | some (digits, scale) => ⟨trimmed digits, scale + (Nat.toDigits 10 digits).length⟩
  | none => ⟨['0'], 1⟩

/-- A run of zeros. -/
def zeros (count : Nat) : List Char := List.replicate count '0'

/-- The digits around the point, without an exponent; a whole number has no point. -/
def positionalChars (decimal : Decimal) : List Char :=
  let size := decimal.digits.length
  if decimal.point ≤ 0 then
    '0' :: '.' :: zeros (-decimal.point).toNat ++ decimal.digits
  else if decimal.point.toNat ≥ size then
    decimal.digits ++ zeros (decimal.point.toNat - size)
  else
    decimal.digits.take decimal.point.toNat ++ '.' :: decimal.digits.drop decimal.point.toNat

/-- The digits around the point from `10 ^ -5` to `10 ^ 16`, always with a fraction; past these
one digit, the point, the other digits and an exponent with its sign. -/
def compactChars (decimal : Decimal) : List Char :=
  let size := decimal.digits.length
  if decimal.point > 0 && decimal.point ≤ 16 then
    if decimal.point.toNat ≥ size then decimal.positionalChars ++ ['.', '0']
    else decimal.positionalChars
  else if decimal.point > -5 && decimal.point ≤ 0 then decimal.positionalChars
  else
    let power := decimal.point - 1
    let sign := if power < 0 then '-' else '+'
    let tail := 'e' :: sign :: (toString power.natAbs).toList
    match decimal.digits with
    | [] => []
    | [digit] => digit :: tail
    | digit :: further => digit :: '.' :: further ++ tail

end Decimal

namespace Double

/-- A sign in front of the digits of a negative number. -/
def signed (negative : Bool) (digits : List Char) : String :=
  String.ofList (if negative then '-' :: digits else digits)

/-- A double in positional notation. -/
def positional : Double → String
  | .undefined => "NaN"
  | .infinite negative => signed negative ['i', 'n', 'f']
  | .finite negative mantissa exponent =>
    signed negative <|
      if mantissa == 0 then ['0'] else (Decimal.shortest .up mantissa exponent).positionalChars

/-- A double with a fraction or an exponent. -/
def compact : Double → String
  | .undefined => "NaN"
  | .infinite negative => signed negative ['i', 'n', 'f']
  | .finite negative mantissa exponent =>
    signed negative <|
      if mantissa == 0 then ['0', '.', '0']
      else (Decimal.shortest .toEven mantissa exponent).compactChars

end Double

end SchemaProjection.Number
