import SchemaProjection.Json.Token
import SchemaProjection.Settings.Value
import SchemaProjection.Text.CharClass

/-!
# Settings in JSON5

JSON5 is JSON with comments, with commas behind the last item, with names without quotes, with
texts between single quotes and over several lines, and with more numerals. A number without
point and exponent is whole and must fit a word; every other one must be finite or have one of
the names of those that are not.
-/
namespace SchemaProjection

namespace Json5

open Number (basedValue isDigitIn)
open Text (Reader)

/-- A character that ends a line. -/
def isLineEnd (c : Char) : Bool := c == '\n' || c == '\r' || c == '\u2028' || c == '\u2029'

/-- A blank. -/
def isSpace (c : Char) : Bool := (Text.isBlank c && c != '\u0085') || c == '\uFEFF'

/-- The text after a comment between `/*` and `*/`. -/
def afterComment : List Char → Option (List Char)
  | '*' :: '/' :: rest => some rest
  | _ :: rest => afterComment rest
  | [] => none

/-- Take a comment. -/
def comment : Reader Unit :=
  (Reader.chars ['/', '/'] *> (do let _ ← Reader.spanning fun c => !isLineEnd c)) <|>
    (Reader.chars ['/', '*'] *> fun text => (afterComment text).map ((), ·))

/-- Take blanks and comments. -/
def filling : Reader Unit := do
  let _ ← Reader.many ((do let _ ← Reader.satisfying isSpace) <|> comment)

/-- Take the four digits of a unit of a character. -/
def unit : Reader Nat := basedValue 16 <$> Reader.exactly (isDigitIn 16) 4

/-- Take the units of a character after their first mark. -/
def unitChar : Reader Char := do
  let first ← unit
  if Json.isTrailing first then failure
  else if Json.isLeading first then
    Reader.chars ['\\', 'u']
    let second ← unit
    if Json.isTrailing second then return Json.pairChar first second else failure
  else return Char.ofNat first

/-- A character that begins a name. -/
def isNameStart (c : Char) : Bool :=
  c == '$' || c == '_' || (Text.isWordChar c && !c.isDigit)

/-- A character of a name. -/
def isNameChar (c : Char) : Bool :=
  isNameStart c || c.isDigit || c == '\u200C' || c == '\u200D'

/-- Take a name without quotes. -/
def name : Reader String := do
  let escaped := Reader.chars ['\\', 'u'] *> unitChar
  let first ← Reader.satisfying isNameStart <|> escaped
  let rest ← Reader.many (Reader.satisfying isNameChar <|> escaped)
  return String.ofList (first :: rest)

/-- The character that an escape of one letter names. -/
def simpleEscape? (c : Char) : Option Char :=
  if isLineEnd c || c.isDigit || c == 'x' || c == 'u' then none
  else some (match c with
    | 'b' => '\x08'
    | 'f' => '\x0c'
    | 'n' => '\n'
    | 'r' => '\r'
    | 't' => '\t'
    | 'v' => '\x0b'
    | c => c)

/-- Take what an escape stands for after its backslash; the end of a line stands for nothing. -/
def escape : Reader (List Char) :=
  (Reader.chars ['\r', '\n'] *> pure []) <|> (Reader.satisfying isLineEnd *> pure []) <|>
    (Reader.char '0' *> pure ['\x00']) <|>
    (Reader.char 'x' *> do
      let digits ← Reader.exactly (isDigitIn 16) 2
      return [Char.ofNat (basedValue 16 digits)]) <|>
    (Reader.char 'u' *> (List.singleton <$> unitChar)) <|>
    (do
      let c ← Reader.satisfying fun c => (simpleEscape? c).isSome
      return (simpleEscape? c).toList)

/-- Take a text between quotes of either kind. -/
def text : Reader String := do
  let quote ← Reader.satisfying fun c => c == '"' || c == '\''
  let plain := Reader.satisfying fun c => c != quote && c != '\\' && !isLineEnd c
  let content ← Reader.many ((List.singleton <$> plain) <|> (Reader.char '\\' *> escape))
  Reader.char quote
  return String.ofList content.flatten

/-- Take a number in base sixteen, which has no sign and fits half a word. -/
def hexadecimal : Reader SettingValue := do
  Reader.char '0'
  let _ ← Reader.satisfying fun c => c == 'x' || c == 'X'
  let value := basedValue 16 (← Number.digitRun 16)
  if value < Number.twoPow 32 then return .integer value else failure

/-- Take the name of a number that is not finite. -/
def namedNumber : Reader SettingValue := do
  let down ← Reader.maybe (Reader.char '-')
  (Reader.chars "Infinity".toList *> pure (.float (.infinite down.isSome))) <|>
    (Reader.chars "NaN".toList *> pure (.float .undefined))

/-- Take the digits before the point, which begin with a zero only if that is all. -/
def wholeDigits : Reader (List Char) :=
  (Reader.char '0' *> pure ['0']) <|> (do
    if ← Reader.nextIs (· == '0') then failure
    Number.digitRun 10)

/-- Take an exponent. -/
def exponent : Reader Int := do
  let _ ← Reader.satisfying fun c => c == 'e' || c == 'E'
  let down ← Number.sign
  return Number.signedValue down (Number.digitsValue (← Number.digitRun 10))

/-- Take a decimal number. -/
def decimal : Reader SettingValue := do
  let negative ← Number.sign
  let whole ← Reader.maybe wholeDigits
  let point ← Reader.maybe (Reader.char '.')
  let places ← if point.isSome then Reader.spanning Char.isDigit else pure []
  if whole.isNone && places.isEmpty then failure
  let power ← Reader.maybe exponent
  let digits := whole.getD [] ++ places
  if point.isNone && power.isNone then
    let value := Number.signedValue negative (Number.digitsValue digits)
    (Number.word? value).map SettingValue.integer
  else
    match Number.Double.ofDecimal negative (Number.digitsValue digits)
        (power.getD 0 - places.length) with
    | .infinite _ => failure
    | value => return .float value

/-- Take a value without parts. -/
def simple : Reader SettingValue :=
  (Reader.chars "null".toList *> pure .missing) <|>
    (Reader.chars "true".toList *> pure (.bool true)) <|>
    (Reader.chars "false".toList *> pure (.bool false)) <|>
    (SettingValue.text <$> text) <|> hexadecimal <|> namedNumber <|> decimal

/-- Take a name with its value. -/
def member (value : Reader SettingValue) : Reader (String × SettingValue) := do
  let name ← name <|> text
  filling
  Reader.char ':'
  filling
  return (name, ← value)

/-- Take a value in which at most a number of others stand in each other. -/
def value : Nat → Reader SettingValue
  | 0 => simple
  | depth + 1 =>
    simple <|>
      (Reader.char '[' *> (SettingValue.list <$> Reader.listed filling (value depth) ']')) <|>
      (Reader.char '\x7b' *>
        (SettingValue.groupOf <$> Reader.listed filling (member (value depth)) '\x7d'))

end Json5

/-- The value of a text in JSON5. -/
def SettingValue.ofJson5Text? (text : String) : Option SettingValue :=
  let text := text.toList
  Text.Reader.whole? (Json5.filling *> Json5.value text.length <* Json5.filling) text

end SchemaProjection
