/-!
# Written JSON

A document to be written is a tree of literals, texts, arrays and objects whose members keep
their order. `Value.compact` writes no blanks; `Value.pretty` writes each item on a line of its
own, two spaces deeper than the bracket around it, and an empty array or object on one line.
-/
namespace SchemaProjection.Json

/-- A JSON document without numbers, which no declaration and no result contains. -/
inductive Value where
  /-- The missing value. -/
  | null
  /-- A truth value. -/
  | bool (value : Bool)
  /-- A text. -/
  | text (content : String)
  /-- Items in order. -/
  | array (items : List Value)
  /-- Members in order. -/
  | object (members : List (String × Value))
deriving Repr, Inhabited

/-- The hexadecimal digit of a number below sixteen, in lower case. -/
def hexDigit (value : Nat) : Char :=
  if value < 10 then Char.ofNat ('0'.toNat + value) else Char.ofNat ('a'.toNat + value - 10)

/-- A character inside a text literal: quotes, backslashes and control characters are escaped. -/
def escaped (c : Char) : List Char :=
  if c == '"' then ['\\', '"']
  else if c == '\\' then ['\\', '\\']
  else if c == '\x08' then ['\\', 'b']
  else if c == '\x0c' then ['\\', 'f']
  else if c == '\n' then ['\\', 'n']
  else if c == '\r' then ['\\', 'r']
  else if c == '\t' then ['\\', 't']
  else if c.toNat < 0x20 then
    ['\\', 'u', '0', '0', hexDigit (c.toNat / 16), hexDigit (c.toNat % 16)]
  else [c]

/-- A text literal. -/
def literal (content : String) : List Char :=
  '"' :: content.toList.flatMap escaped ++ ['"']

/-- The two truth values. -/
def boolChars (value : Bool) : List Char :=
  if value then ['t', 'r', 'u', 'e'] else ['f', 'a', 'l', 's', 'e']

namespace Value

mutual

/-- A document without blanks. -/
def compactChars : Value → List Char
  | .null => ['n', 'u', 'l', 'l']
  | .bool value => boolChars value
  | .text content => literal content
  | .array [] => ['[', ']']
  | .array (first :: rest) => '[' :: (compactChars first ++ compactItems rest)
  | .object [] => ['\x7b', '\x7d']
  | .object ((key, value) :: rest) =>
    '\x7b' :: (literal key ++ ':' :: (compactChars value ++ compactMembers rest))

/-- The items after the first, with the bracket that closes the array. -/
def compactItems : List Value → List Char
  | [] => [']']
  | item :: rest => ',' :: (compactChars item ++ compactItems rest)

/-- The members after the first, with the bracket that closes the object. -/
def compactMembers : List (String × Value) → List Char
  | [] => ['\x7d']
  | (key, value) :: rest =>
    ',' :: (literal key ++ ':' :: (compactChars value ++ compactMembers rest))

end

/-- A document without blanks. -/
def compact (value : Value) : String := String.ofList value.compactChars

/-- A new line and the indentation of a depth. -/
def newLine (depth : Nat) : List Char := '\n' :: List.replicate (2 * depth) ' '

mutual

/-- A document at a depth, with an item to a line. -/
def prettyChars (depth : Nat) : Value → List Char
  | .null => ['n', 'u', 'l', 'l']
  | .bool value => boolChars value
  | .text content => literal content
  | .array [] => ['[', ']']
  | .array (first :: rest) =>
    '[' :: (newLine (depth + 1) ++ prettyChars (depth + 1) first ++ prettyItems depth rest)
  | .object [] => ['\x7b', '\x7d']
  | .object ((key, value) :: rest) =>
    '\x7b' :: (newLine (depth + 1) ++ literal key ++ ':' :: ' ' ::
      (prettyChars (depth + 1) value ++ prettyMembers depth rest))

/-- The items after the first, with the bracket that closes the array. -/
def prettyItems (depth : Nat) : List Value → List Char
  | [] => newLine depth ++ [']']
  | item :: rest =>
    ',' :: (newLine (depth + 1) ++ prettyChars (depth + 1) item ++ prettyItems depth rest)

/-- The members after the first, with the bracket that closes the object. -/
def prettyMembers (depth : Nat) : List (String × Value) → List Char
  | [] => newLine depth ++ ['\x7d']
  | (key, value) :: rest =>
    ',' :: (newLine (depth + 1) ++ literal key ++ ':' :: ' ' ::
      (prettyChars (depth + 1) value ++ prettyMembers depth rest))

end

/-- A document with an item to a line. -/
def pretty (value : Value) : String := String.ofList (value.prettyChars 0)

mutual

/-- A document with the members of every object in the order of their keys. -/
def sorted : Value → Value
  | .array items => .array (sortedItems items)
  | .object members =>
    .object ((sortedMembers members).mergeSort fun left right => left.1 ≤ right.1)
  | value => value

/-- Items with their objects in order. -/
def sortedItems : List Value → List Value
  | [] => []
  | item :: rest => sorted item :: sortedItems rest

/-- Members with the objects inside them in order. -/
def sortedMembers : List (String × Value) → List (String × Value)
  | [] => []
  | (key, value) :: rest => (key, sorted value) :: sortedMembers rest

end

/-- Texts as an array. -/
def texts (contents : List String) : Value := .array (contents.map .text)

end Value

end SchemaProjection.Json
