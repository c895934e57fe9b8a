import SchemaProjection.Number.Double
import SchemaProjection.Text.Reader

/-!
# Numerals

Numbers as they are written: runs of digits and their values, and the readers of whole numbers
that fit a word and of doubles in decimal or exponential notation. The notations of settings
share them.
-/
namespace SchemaProjection.Number

open Text (Reader)

/-- The value of a digit. -/
def digitValue (digit : Char) : Nat := digit.toNat - '0'.toNat

/-- The value of a run of digits. -/
def digitsValue (digits : List Char) : Nat :=
  digits.foldl (fun value digit => value * 10 + digitValue digit) 0

/-- The value of a hexadecimal digit. -/
def hexValue? (c : Char) : Option Nat :=
  if '0' ≤ c && c ≤ '9' then some (c.toNat - '0'.toNat)
  else if 'a' ≤ c && c ≤ 'f' then some (c.toNat - 'a'.toNat + 10)
  else if 'A' ≤ c && c ≤ 'F' then some (c.toNat - 'A'.toNat + 10)
  else none

/-- Whether a character is a digit in a base up to sixteen. -/
def isDigitIn (base : Nat) (c : Char) : Bool := (hexValue? c).any (· < base)

/-- The value of a run of digits in a base up to sixteen. -/
def basedValue (base : Nat) (digits : List Char) : Nat :=
  digits.foldl (fun value c => value * base + (hexValue? c).getD 0) 0

/-- A number that fits a signed word of 64 bits. -/
def word? (value : Int) : Option Int :=
  if -(twoPow 63 : Int) ≤ value ∧ value < (twoPow 63 : Int) then some value else none

/-- Take a sign, and tell whether it is a minus. -/
def sign : Reader Bool := do
  let c ← Reader.maybe (Reader.satisfying fun c => c == '+' || c == '-')
  return c == some '-'

/-- A magnitude with its sign. -/
def signedValue (negative : Bool) (magnitude : Nat) : Int :=
  if negative then -(magnitude : Int) else magnitude

/-- Take digits in a base, of which there is at least one. -/
def digitRun (base : Nat) : Reader (List Char) := do
  let first ← Reader.satisfying (isDigitIn base)
  let rest ← Reader.spanning (isDigitIn base)
  return first :: rest

/-- Take a whole number in a base that fits a signed word of 64 bits. -/
def wordNumeral (base : Nat) : Reader Int := do
  let negative ← sign
  let digits ← digitRun base
  (word? (signedValue negative (basedValue base digits)) : Option Int)

/-- Take a number in decimal or exponential notation. -/
def doubleNumeral : Reader Double := do
  let negative ← sign
  let whole ← Reader.spanning Char.isDigit
  let point ← Reader.maybe (Reader.char '.')
  let places ← if point.isSome then Reader.spanning Char.isDigit else pure []
  let power ← Reader.maybe do
    let _ ← Reader.satisfying fun c => c == 'e' || c == 'E'
    let down ← sign
    return signedValue down (digitsValue (← digitRun 10))
  if whole.isEmpty && places.isEmpty then failure
  return Double.ofDecimal negative (digitsValue (whole ++ places)) (power.getD 0 - places.length)

/-- Take one of the names of numbers that are not finite, in any case of letters. -/
def namedDouble : Reader Double := do
  let negative ← sign
  let word ← Reader.spanning Char.isAlpha
  match String.ofList (word.map Char.toLower) with
  | "inf" | "infinity" => return .infinite negative
  | "nan" => return .undefined
  | _ => failure

/-- The whole number that a text is. -/
def wordOf? (text : List Char) : Option Int := Reader.whole? (wordNumeral 10) text

/-- The double that a text is. -/
def doubleOf? (text : List Char) : Option Double :=
  Reader.whole? (doubleNumeral <|> namedDouble) text

end SchemaProjection.Number
