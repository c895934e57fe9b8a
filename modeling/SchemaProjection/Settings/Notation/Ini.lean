import SchemaProjection.Settings.Value
import SchemaProjection.Text.CharClass

/-!
# Settings in INI

A text in INI is a sequence of section names in square brackets, of names with values, and of
comments. A name ends at the first `=` or `:` and a value at the end of its line; both stand
without the blanks around them. A comment begins in the first column. All values are texts.
Values before the first section stand outside all groups, and a section takes the place of an
earlier one of its name.
-/
namespace SchemaProjection

namespace Ini

open Number (basedValue isDigitIn)
open Text (Reader)

/-- A part of a text in INI. -/
inductive Statement where
  /-- The name of a section. -/
  | heading (name : String)
  /-- A name with its value. -/
  | property (name value : String)
deriving Repr, DecidableEq

/-- A text without blanks at its end. -/
def trimmedEnd (text : List Char) : List Char := (text.reverse.dropWhile Text.isBlank).reverse

/-- A text without blanks at its beginning and its end. -/
def trimmed (text : List Char) : List Char := trimmedEnd (Text.skipBlank text)

/-- The character of a hexadecimal number, which may have a plus sign. -/
def coded? (digits : List Char) : Option Char :=
  let digits := if digits.head? = some '+' then digits.drop 1 else digits
  let code := basedValue 16 digits
  if digits.all (isDigitIn 16) && code.isValidChar then some (Char.ofNat code) else none

/-- The characters that an escape of one letter stands for: the end of a line for none, and most
letters for themselves. -/
def simpleEscape : Char → List Char
  | '0' => ['\x00']
  | 'a' => ['\x07']
  | 'b' => ['\x08']
  | 't' => ['\t']
  | 'r' => ['\r']
  | 'n' => ['\n']
  | '\n' => []
  | c => [c]

/-- Take the characters up to one that stops them, with escapes. Where `mayEnd` holds, the end of
the text stops them too. -/
def spanningUntil (stops : Char → Bool) (mayEnd : Bool) : Reader (List Char)
  | [] => if mayEnd then some ([], []) else none
  | '\\' :: 'x' :: a :: b :: c :: d :: rest => do
    let meant ← coded? [a, b, c, d]
    let (content, last) ← spanningUntil stops mayEnd rest
    some (meant :: content, last)
  | '\\' :: 'x' :: _ => none
  | '\\' :: c :: rest => do
    let (content, last) ← spanningUntil stops mayEnd rest
    some (simpleEscape c ++ content, last)
  | ['\\'] => none
  | c :: rest =>
    if stops c then some ([], c :: rest)
    else do
      let (content, last) ← spanningUntil stops mayEnd rest
      some (c :: content, last)

/-- Take a section name in square brackets. -/
def heading : Reader Statement := do
  Reader.char '['
  let name ← spanningUntil (· == ']') false
  Reader.char ']'
  return .heading (String.ofList (trimmed name))

/-- A quote of a part of a value. -/
def isQuote (c : Char) : Bool := c == '"' || c == '\''

/-- A character that ends a line. -/
def isLineEnd (c : Char) : Bool := c == '\n' || c == '\r'

/-- Take a part of a value between quotes. -/
def quotedPart : Reader (List Char) := do
  let quote ← Reader.satisfying isQuote
  let content ← spanningUntil (· == quote) false
  Reader.char quote
  return content

/-- Take a value: parts between quotes that follow each other directly, and the rest of the line.
Behind such a part the blanks at the beginning of the rest count. -/
def value : Reader String := do
  let _ ← Reader.spanning fun c => Text.isBlank c && !isLineEnd c
  let parts ← Reader.many quotedPart
  if ← Reader.nextIs isQuote then failure
  let rest ← spanningUntil isLineEnd true
  let rest := if parts.isEmpty then trimmed rest else trimmedEnd rest
  return String.ofList (parts.flatten ++ rest)

/-- The mark of a comment. -/
def isCommentMark (c : Char) : Bool := c == ';' || c == '#'

/-- The mark between a name and its value. -/
def isValueMark (c : Char) : Bool := c == '=' || c == ':'

/-- Take a name with its value. -/
def property : Reader Statement := do
  if ← Reader.nextIs isCommentMark then failure
  let name := trimmed (← spanningUntil isValueMark false)
  let _ ← Reader.satisfying isValueMark
  if name.isEmpty then failure
  return .property (String.ofList name) (← value)

/-- Take the blanks that end a line. -/
def lineRest : Reader Unit := do
  let _ ← Reader.spanning fun c => Text.isBlank c && c != '\n'
  Reader.char '\n'

/-- Take a comment with the end of its line. -/
def comment : Reader Unit := do
  let _ ← Reader.satisfying isCommentMark
  let _ ← Reader.spanning (· != '\n')
  Reader.char '\n' <|> Reader.ending

/-- Take blanks and comments, at the beginning of a line or elsewhere. -/
def filling (atLine : Bool) : Reader Unit := do
  let ended ← Reader.maybe lineRest
  if atLine || ended.isSome then
    let _ ← Reader.many (lineRest <|> comment)
  let _ ← Reader.spanning Text.isBlank

/-- The statements of a text. -/
def statements? (text : String) : Option (List Statement) :=
  Reader.whole? (filling true *> Reader.many ((heading <|> property) <* filling false))
    text.toList

/-- The settings of statements after others, in the section of a name if there is one. -/
def settings (found : List (String × SettingValue)) (current : Option String) :
    List Statement → List (String × SettingValue)
  | [] => found
  | .heading name :: rest => settings (Entries.put name (.group []) found) (some name) rest
  | .property name value :: rest =>
    let found := match current with
      | none => Entries.put name (.text value) found
      | some outer =>
        let inner := ((found.lookup outer).getD (.group [])).entries
        Entries.put outer (.group (Entries.put name (.text value) inner)) found
    settings found current rest

end Ini

/-- The value of a text in INI. -/
def SettingValue.ofIniText? (text : String) : Option SettingValue :=
  (Ini.statements? text).map fun statements => .group (Ini.settings [] none statements)

end SchemaProjection
