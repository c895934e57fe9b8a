import SchemaProjection.Settings.Value

/-!
# Settings in RON

A value in RON is a literal, a list in square brackets, a map in braces, or a structure: a name
that may be followed by fields in parentheses, with names of their own or without. A structure
with named fields and a map are groups, one with other fields is a list, and a bare name, `()`
and `None` are missing values. A whole number that fits no word is a double.
-/
namespace SchemaProjection

namespace Ron

open Number (Double basedValue digitsValue isDigitIn hexValue? word?)
open Text (Reader)

/-- The text after a comment between `/*` and `*/` in which comments may stand. -/
def afterComment (depth : Nat) : List Char → Option (List Char)
  | '/' :: '*' :: rest => afterComment (depth + 1) rest
  | '*' :: '/' :: rest => if depth = 0 then some rest else afterComment (depth - 1) rest
  | _ :: rest => afterComment depth rest
  | [] => none

/-- Take a comment. -/
def comment : Reader Unit :=
  (Reader.chars ['/', '/'] *> (do let _ ← Reader.spanning (· != '\n'))) <|>
    (Reader.chars ['/', '*'] *> fun text => (afterComment 0 text).map ((), ·))

/-- A blank. -/
def isSpace (c : Char) : Bool := c == ' ' || c == '\t' || c == '\n' || c == '\r'

/-- Take blanks and comments. -/
def filling : Reader Unit := do
  let _ ← Reader.many ((do let _ ← Reader.satisfying isSpace) <|> comment)

/-- A character that begins a name. -/
def isNameStart (c : Char) : Bool := c.isAlpha || c == '_'

/-- A character of a name. -/
def isNameChar (c : Char) : Bool := c.isAlphanum || c == '_'

/-- A character of a name that is marked as one. -/
def isRawChar (c : Char) : Bool := isNameChar c || c == '.' || c == '+' || c == '-'

/-- Take a name that is marked by `r#`. -/
def rawName : Reader String := do
  Reader.chars ['r', '#']
  let first ← Reader.satisfying isRawChar
  let rest ← Reader.spanning isRawChar
  return String.ofList (first :: rest)

/-- Take a name without a mark. -/
def plainName : Reader String := do
  let first ← Reader.satisfying isNameStart
  let rest ← Reader.spanning isNameChar
  if ← Reader.nextIs isRawChar then failure
  return String.ofList (first :: rest)

/-- Take a word that is no part of a longer name. -/
def keyword (word : List Char) : Reader Unit := do
  Reader.chars word
  if ← Reader.nextIs isNameChar then failure

/-- Take the character of an escape after its backslash. -/
def escape : Reader Char := do
  let c ← Reader.satisfying fun _ => true
  match c with
  | '\'' | '"' | '\\' => return c
  | 'n' => return '\n'
  | 'r' => return '\r'
  | 't' => return '\t'
  | '0' => return '\x00'
  | 'x' => return Char.ofNat (basedValue 16 (← Reader.exactly (isDigitIn 16) 2))
  | 'u' =>
    Reader.char '\x7b'
    let digits ← Reader.spanning (isDigitIn 16)
    Reader.char '\x7d'
    let code := basedValue 16 digits
    if digits.isEmpty || digits.length > 6 || !code.isValidChar then failure
    return Char.ofNat code
  | _ => failure

/-- Take a text between double quotes. -/
def quotedText : Reader String := do
  Reader.char '"'
  let content ← Reader.many
    (Reader.satisfying (fun c => c != '"' && c != '\\') <|> (Reader.char '\\' *> escape))
  Reader.char '"'
  return String.ofList content

/-- The content of a text up to its end mark, and the text after that. -/
def upTo (mark : List Char) : List Char → Option (List Char × List Char)
  | [] => none
  | c :: rest =>
    if mark.isPrefixOf (c :: rest) then some ([], (c :: rest).drop mark.length)
    else (upTo mark rest).map fun (content, last) => (c :: content, last)

/-- Take a text without escapes, which ends in a quote and as many hashes as begin it. -/
def rawText : Reader String := do
  Reader.char 'r'
  let hashes ← Reader.spanning (· == '#')
  Reader.char '"'
  let content ← upTo ('"' :: hashes)
  return String.ofList content

/-- Take a single character. -/
def character : Reader String := do
  Reader.char '\''
  let c ← (Reader.char '\\' *> escape) <|>
    Reader.satisfying fun c => c != '\'' && c != '\\'
  Reader.char '\''
  return String.singleton c

/-- Take a text. -/
def text : Reader String := quotedText <|> rawText <|> character

/-- A character that may stand in a whole number. -/
def isWholeChar (c : Char) : Bool := (hexValue? c).isSome || c == '_'

/-- A character that may stand in another number. -/
def isDecimalChar (c : Char) : Bool :=
  c.isDigit || c == 'e' || c == 'E' || c == '.' || c == '+' || c == '-' || c == '_'

/-- Take the mark of the base of a whole number. -/
def base : Reader Nat :=
  (Reader.chars ['0', 'x'] *> pure 16) <|> (Reader.chars ['0', 'b'] *> pure 2) <|>
    (Reader.chars ['0', 'o'] *> pure 8) <|> pure 10

/-- Take a whole number. With a sign it must fit a signed word, and without one an unsigned
word. -/
def whole : Reader SettingValue := do
  let mark ← Reader.maybe (Reader.satisfying fun c => c == '+' || c == '-')
  let base ← base
  let run ← Reader.spanning isWholeChar
  let digits := run.filter (· != '_')
  if run.isEmpty || run.head? = some '_' || !digits.all (isDigitIn base) then failure
  let magnitude := basedValue base digits
  match word? (Number.signedValue (mark = some '-') magnitude) with
  | some value => return .integer value
  | none =>
    if mark.isSome || magnitude ≥ Number.twoPow 64 then failure
    return .float (Double.ofRatio false magnitude 1)

/-- Take a number with a fraction or an exponent. -/
def decimal : Reader SettingValue := do
  let run ← Reader.spanning isDecimalChar
  (Number.doubleOf? run).map SettingValue.float

/-- Whether a number is longer when it is read with a fraction and an exponent. -/
def isDecimal : Reader Bool := fun text =>
  let unsigned := match text with
    | c :: rest => if c == '+' || c == '-' then rest else text
    | [] => []
  let wholeRun := unsigned.takeWhile isWholeChar
  let decimalRun := unsigned.takeWhile isDecimalChar
  some (wholeRun.length < decimalRun.length, text)

/-- Take a number. -/
def number : Reader SettingValue := do
  if ← Reader.nextIs fun c => c.isDigit || c == '+' || c == '-' || c == '.' then
    if ← isDecimal then decimal else whole <|> decimal
  else failure

/-- Take a value without parts. -/
def simple : Reader SettingValue :=
  (keyword ['t', 'r', 'u', 'e'] *> pure (.bool true)) <|>
    (keyword ['f', 'a', 'l', 's', 'e'] *> pure (.bool false)) <|>
    (keyword ['N', 'o', 'n', 'e'] *> pure .missing) <|>
    (Reader.chars ['(', ')'] *> pure .missing) <|>
    (keyword ['i', 'n', 'f'] *> pure (.float (.infinite false))) <|>
    (keyword ['-', 'i', 'n', 'f'] *> pure (.float (.infinite true))) <|>
    (keyword ['N', 'a', 'N'] *> pure (.float .undefined)) <|>
    (SettingValue.text <$> text) <|> number

/-- Take a name with a value. -/
def field (name : Reader String) (value : Reader SettingValue) :
    Reader (String × SettingValue) := do
  let name ← name
  filling
  Reader.char ':'
  filling
  return (name, ← value)

/-- Take what follows the word `Some`. -/
def present (value : Reader SettingValue) : Reader SettingValue := do
  keyword ['S', 'o', 'm', 'e']
  filling
  Reader.char '('
  filling
  let content ← value
  filling
  let _ ← Reader.maybe (Reader.char ',' *> filling)
  Reader.char ')'
  return content

/-- Take fields in parentheses, which are named if the first one is. -/
def fields (value : Reader SettingValue) : Reader SettingValue := do
  Reader.char '('
  filling
  let name := rawName <|> plainName
  let named := fun text => some (((name *> filling *> Reader.char ':') text).isSome, text)
  if ← (named : Reader Bool) then
    SettingValue.groupOf <$> Reader.listed filling (field name value) ')'
  else SettingValue.list <$> Reader.listed filling value ')'

/-- Take a name and the fields that may follow it. -/
def structureOf (value : Reader SettingValue) : Reader SettingValue := do
  let name ← rawName <|> plainName
  filling
  if name = "Some" then failure
  else if ← Reader.nextIs (· == '(') then fields value
  else return .missing

/-- Take a value in which at most a number of others stand in each other. -/
def value : Nat → Reader SettingValue
  | 0 => simple
  | depth + 1 =>
    let inner := value depth
    simple <|> present inner <|> structureOf inner <|> fields inner <|>
      (Reader.char '[' *> (SettingValue.list <$> Reader.listed filling inner ']')) <|>
      (Reader.char '\x7b' *>
        (SettingValue.groupOf <$> Reader.listed filling (field text inner) '\x7d'))

/-- The number of lists, groups and options that may stand in each other. -/
def depthLimit : Nat := 128

/-- The names of the extensions that a text may ask for. -/
def extensions : List String := ["unwrap_newtypes", "implicit_some", "unwrap_variant_newtypes"]

/-- Take the extensions that a text asks for. They change nothing of a setting. -/
def request : Reader Unit := do
  Reader.char '#' *> filling *> Reader.char '!' *> filling *> Reader.char '[' *> filling
  Reader.chars "enable".toList *> filling *> Reader.char '('
  let names ← Reader.listed filling (rawName <|> plainName) ')'
  if names.isEmpty || !names.all extensions.contains then failure
  filling *> Reader.char ']' *> filling

/-- Take a whole text. -/
def document : Reader SettingValue := do
  filling
  let _ ← Reader.many request
  value depthLimit <* filling

end Ron

/-- The value of a text in RON. -/
def SettingValue.ofRonText? (text : String) : Option SettingValue :=
  Text.Reader.whole? Ron.document text.toList

end SchemaProjection
