import SchemaProjection.Json.Token
import SchemaProjection.Text.Reader
import SchemaProjection.Toml.Value

/-!
# TOML literals

Texts between single, double or triple quotes, numbers, and dates and times. All line endings
have been made line feeds before.
-/
namespace SchemaProjection.Toml

open Number (Double basedValue digitsValue isDigitIn sign signedValue word?)
open Text (Reader)

/-- A blank inside a line. -/
def isBlank (c : Char) : Bool := c == ' ' || c == '\t'

/-- A character that may stand in a comment or a text. -/
def isPrintable (c : Char) : Bool := c == '\t' || (0x20 ≤ c.toNat && c.toNat != 0x7F)

/-- The character of a code point. -/
def scalar? (code : Nat) : Option Char := if code.isValidChar then some (Char.ofNat code) else none

/-- The character of eight hexadecimal digits. -/
def longEscape? (a b c d e f g h : Char) : Option Char := do
  scalar? ((← Json.unit? a b c d) * 0x10000 + (← Json.unit? e f g h))

/-- The character that a one-letter escape names. -/
def simpleEscape? (c : Char) : Option Char := if c == '/' then none else Json.simpleEscape? c

/-- Read a text after its opening double quote. -/
def readBasic : List Char → Option (List Char × List Char)
  | [] => none
  | '"' :: rest => some ([], rest)
  | '\\' :: 'u' :: a :: b :: c :: d :: rest => do
    let meant ← (Json.unit? a b c d).bind scalar?
    let (content, last) ← readBasic rest
    some (meant :: content, last)
  | '\\' :: 'U' :: a :: b :: c :: d :: e :: f :: g :: h :: rest => do
    let meant ← longEscape? a b c d e f g h
    let (content, last) ← readBasic rest
    some (meant :: content, last)
  | '\\' :: c :: rest => do
    let meant ← simpleEscape? c
    let (content, last) ← readBasic rest
    some (meant :: content, last)
  | c :: rest =>
    if isPrintable c && c != '\\' then do
      let (content, last) ← readBasic rest
      some (c :: content, last)
    else none

/-- The text after a line that ends in a backslash and after all blanks and line ends that
follow, if the line ends there. -/
def continuation? (text : List Char) : Option (List Char) :=
  match text.dropWhile isBlank with
  | '\n' :: rest => some (rest.dropWhile fun c => isBlank c || c == '\n')
  | _ => none

/-- A continued line is followed by a text that is no longer. -/
theorem continuation?_length_le {text rest : List Char}
    (continued : continuation? text = some rest) :
    rest.length ≤ text.length := by
  have blanks := (List.dropWhile_sublist (fun c => isBlank c) (l := text)).length_le
  simp only [continuation?] at continued
  split at continued
  · rename_i line following
    have further := (List.dropWhile_sublist (fun c => isBlank c || c == '\n') (l := line)).length_le
    rw [following] at blanks
    simp only [Option.some.injEq] at continued
    rw [← continued]
    simp only [List.length_cons] at blanks
    omega
  · simp at continued

/-- Read a text after its three opening double quotes. Up to two quotes may stand directly before
the three that close it. -/
def readLongBasic (text : List Char) : Option (List Char × List Char) :=
  match text with
  | [] => none
  | '"' :: '"' :: '"' :: '"' :: '"' :: rest => some (['"', '"'], rest)
  | '"' :: '"' :: '"' :: '"' :: rest => some (['"'], rest)
  | '"' :: '"' :: '"' :: rest => some ([], rest)
  | '\\' :: 'u' :: a :: b :: c :: d :: rest => do
    let meant ← (Json.unit? a b c d).bind scalar?
    let (content, last) ← readLongBasic rest
    some (meant :: content, last)
  | '\\' :: 'U' :: a :: b :: c :: d :: e :: f :: g :: h :: rest => do
    let meant ← longEscape? a b c d e f g h
    let (content, last) ← readLongBasic rest
    some (meant :: content, last)
  | '\\' :: c :: rest =>
    match continued : continuation? (c :: rest) with
    | some after =>
      have : after.length ≤ rest.length + 1 := continuation?_length_le continued
      readLongBasic after
    | none => do
      let meant ← simpleEscape? c
      let (content, last) ← readLongBasic rest
      some (meant :: content, last)
  | c :: rest =>
    if (isPrintable c || c == '\n') && c != '\\' then do
      let (content, last) ← readLongBasic rest
      some (c :: content, last)
    else none
termination_by text.length

/-- Read a text after its three opening single quotes, where up to two quotes may stand directly
before the three that close it. -/
def readLongLiteral : List Char → Option (List Char × List Char)
  | [] => none
  | '\'' :: '\'' :: '\'' :: '\'' :: '\'' :: rest => some (['\'', '\''], rest)
  | '\'' :: '\'' :: '\'' :: '\'' :: rest => some (['\''], rest)
  | '\'' :: '\'' :: '\'' :: rest => some ([], rest)
  | c :: rest =>
    if isPrintable c || c == '\n' then do
      let (content, last) ← readLongLiteral rest
      some (c :: content, last)
    else none

/-- The text without a line end at its beginning. -/
def withoutLineEnd : List Char → List Char
  | '\n' :: rest => rest
  | text => text

/-- Take a text between double quotes on one line. -/
def basicText : Reader String := do
  Reader.char '"'
  let content ← readBasic
  return String.ofList content

/-- Take a text between single quotes on one line. -/
def literalText : Reader String := do
  Reader.char '\''
  let content ← Reader.spanning fun c => isPrintable c && c != '\''
  Reader.char '\''
  return String.ofList content

/-- Take a text in any quotes. -/
def quotedText : Reader String := do
  if ← Reader.ahead ['"', '"', '"'] then
    Reader.chars ['"', '"', '"']
    let content ← fun text => readLongBasic (withoutLineEnd text)
    return String.ofList content
  else if ← Reader.ahead ['\'', '\'', '\''] then
    Reader.chars ['\'', '\'', '\'']
    let content ← fun text => readLongLiteral (withoutLineEnd text)
    return String.ofList content
  else basicText <|> literalText

/-- Take digits, of which two may be separated by an underscore. -/
def digits (isDigit : Char → Bool) : Reader (List Char) := do
  let first ← Reader.satisfying isDigit
  let rest ← Reader.many
    ((Reader.char '_' *> Reader.satisfying isDigit) <|> Reader.satisfying isDigit)
  return first :: rest

/-- Take the digits of a whole number, which begin with a zero only if that is all. -/
def wholeDigits : Reader (List Char) := do
  let zero ← Reader.maybe (Reader.char '0')
  match zero with
  | some _ => return ['0']
  | none => digits Char.isDigit

/-- Take the digits of a number in another base. -/
def basedInteger (mark : Char) (base : Nat) : Reader Int := do
  Reader.chars ['0', mark]
  let content ← digits (isDigitIn base)
  (word? (basedValue base content) : Option Int)

/-- Take a whole number. -/
def integer : Reader Int :=
  basedInteger 'x' 16 <|> basedInteger 'o' 8 <|> basedInteger 'b' 2 <|> do
    let negative ← sign
    let value := digitsValue (← wholeDigits)
    (word? (signedValue negative value) : Option Int)

/-- Take an exponent. -/
def exponent : Reader Int := do
  let _ ← Reader.satisfying fun c => c == 'e' || c == 'E'
  let negative ← sign
  return signedValue negative (digitsValue (← digits Char.isDigit))

/-- Take a number with a fraction or an exponent. A positive number past the largest one is
refused. -/
def decimal : Reader Double := do
  let negative ← sign
  let whole ← wholeDigits
  let fraction ← Reader.maybe (Reader.char '.' *> digits Char.isDigit)
  let power ← match fraction with
    | some _ => Reader.maybe exponent
    | none => some <$> exponent
  let places := fraction.getD []
  match Double.ofDecimal negative (digitsValue (whole ++ places))
      (power.getD 0 - places.length) with
  | .infinite false => failure
  | value => return value

/-- Take one of the names of numbers that are not finite. -/
def namedNumber : Reader Double := do
  let negative ← sign
  (Reader.chars ['i', 'n', 'f'] *> pure (.infinite negative)) <|>
    (Reader.chars ['n', 'a', 'n'] *> pure .undefined)

/-- Take a number of digits whose value lies within bounds. -/
def field (count least greatest : Nat) : Reader (List Char) := do
  let content ← Reader.exactly Char.isDigit count
  let value := digitsValue content
  if least ≤ value ∧ value ≤ greatest then return content else failure

/-- The number of days of a month. -/
def daysOf (year month : Nat) : Nat :=
  let leap := (year % 4 == 0 && year % 100 != 0) || year % 400 == 0
  if month == 2 then (if leap then 29 else 28)
  else if month == 4 || month == 6 || month == 9 || month == 11 then 30
  else 31

/-- Take a date. -/
def date : Reader (List Char) := do
  let year ← field 4 0 9999
  Reader.char '-'
  let month ← field 2 1 12
  Reader.char '-'
  let day ← field 2 1 (daysOf (digitsValue year) (digitsValue month))
  return year ++ '-' :: month ++ '-' :: day

/-- The digits of a fraction of a second: at most nine, and none that are zero at the end. -/
def fractionChars (places : List Char) : List Char :=
  match ((places.take 9).reverse.dropWhile (· == '0')).reverse with
  | [] => []
  | kept => '.' :: kept

/-- Take a time. -/
def time : Reader (List Char) := do
  let hour ← field 2 0 23
  Reader.char ':'
  let minute ← field 2 0 59
  Reader.char ':'
  let second ← field 2 0 60
  let fraction ← Reader.maybe do
    Reader.char '.'
    let first ← Reader.satisfying Char.isDigit
    let rest ← Reader.spanning Char.isDigit
    return first :: rest
  return hour ++ ':' :: minute ++ ':' :: second ++ fractionChars (fraction.getD [])

/-- Take the offset of a time from universal time. -/
def offset : Reader (List Char) :=
  (Reader.satisfying (fun c => c == 'Z' || c == 'z') *> pure ['Z']) <|> do
    let mark ← Reader.satisfying fun c => c == '+' || c == '-'
    let hour ← field 2 0 23
    Reader.char ':'
    let minute ← field 2 0 59
    let isZero := digitsValue hour + digitsValue minute == 0
    return (if isZero then '+' else mark) :: hour ++ ':' :: minute

/-- Take a date, a time or both. -/
def moment : Reader String := String.ofList <$> (dated <|> time)
where
  /-- Take a date and the time that may follow it. -/
  dated : Reader (List Char) := do
    let day ← date
    let rest ← Reader.maybe do
      let _ ← Reader.satisfying fun c => c == 'T' || c == 't' || c == ' '
      let clock ← time
      let shift ← Reader.maybe offset
      return 'T' :: clock ++ shift.getD []
    return day ++ rest.getD []

/-- The canonical form of a text that is a date, a time or both. -/
def momentOf? (text : String) : Option String := Reader.whole? moment text.toList

end SchemaProjection.Toml
