/-!
# Places in a YAML text

Indentation decides the structure of a YAML text, so a place in it carries its line and column.
A zero character ends the text like the end itself.
-/
namespace SchemaProjection.Yaml

/-- A character that ends a line. -/
def isBreak (c : Char) : Bool := c == '\n' || c == '\r'

/-- The end of the text. -/
def isEnd (c : Char) : Bool := c == '\x00'

/-- The end of a line or of the text. -/
def isLineEnd (c : Char) : Bool := isBreak c || isEnd c

/-- A blank inside a line. -/
def isBlank (c : Char) : Bool := c == ' ' || c == '\t'

/-- What may follow a word or an indicator: a blank, or the end of a line or of the text. -/
def isSpace (c : Char) : Bool := isBlank c || isLineEnd c

/-- A character of the name of an anchor. -/
def isNameChar (c : Char) : Bool := c.isAlphanum || c == '_' || c == '-'

/-- An indicator of a collection in brackets. -/
def isFlow (c : Char) : Bool := c == ',' || c == '[' || c == ']' || c == '\x7b' || c == '\x7d'

/-- A place in a text. -/
structure Cursor where
  /-- The text from the place on. -/
  rest : List Char
  /-- The number of characters before the place. -/
  index : Nat
  /-- The number of lines before the place. -/
  line : Nat
  /-- The number of characters of its line before the place. -/
  column : Nat
deriving Repr

namespace Cursor

/-- The beginning of a text. -/
def ofText (text : String) : Cursor := ⟨text.toList, 0, 0, 0⟩

/-- The character at a place. -/
def peek (cursor : Cursor) : Char := cursor.rest.headD '\x00'

/-- The character some places further on. -/
def peekAt (cursor : Cursor) (distance : Nat) : Char := cursor.rest.getD distance '\x00'

/-- The place behind the character. -/
def skip (cursor : Cursor) : Cursor :=
  match cursor.rest with
  | [] => cursor
  | '\n' :: rest => ⟨rest, cursor.index + 1, cursor.line + 1, 0⟩
  | _ :: rest => ⟨rest, cursor.index + 1, cursor.line, cursor.column + 1⟩

/-- The place behind a number of characters. -/
def skips (cursor : Cursor) : Nat → Cursor
  | 0 => cursor
  | count + 1 => cursor.skip.skips count

/-- The place behind the end of a line. -/
def skipBreak (cursor : Cursor) : Cursor :=
  if cursor.peek == '\r' && cursor.peekAt 1 == '\n' then cursor.skips 2 else cursor.skip

/-- The characters up to the first that does not satisfy a condition, and the place of that. -/
def spanning (holds : Char → Bool) (cursor : Cursor) : List Char × Cursor :=
  let taken := cursor.rest.takeWhile holds
  (taken, cursor.skips taken.length)

/-- The place of the first character that does not satisfy a condition. -/
def skipWhile (holds : Char → Bool) (cursor : Cursor) : Cursor := (cursor.spanning holds).2

/-- The place behind the blanks and the comment at the end of a line, if nothing else stands
there. -/
def lineRest? (cursor : Cursor) : Option Cursor :=
  let cursor := cursor.skipWhile isBlank
  let cursor := if cursor.peek == '#' then cursor.skipWhile (!isLineEnd ·) else cursor
  if isBreak cursor.peek then some cursor.skipBreak
  else if isEnd cursor.peek then some cursor
  else none

/-- Whether three of a character and no more of a word begin the line of the place. -/
def atMark (cursor : Cursor) (c : Char) : Bool :=
  cursor.column == 0 && cursor.rest.take 3 == [c, c, c] && isSpace (cursor.peekAt 3)

/-- Whether a mark between documents stands at the place. -/
def atDocumentMark (cursor : Cursor) : Bool := cursor.atMark '-' || cursor.atMark '.'

end Cursor

end SchemaProjection.Yaml
