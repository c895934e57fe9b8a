import SchemaProjection.Toml.Literal

/-!
# TOML documents

A document is a sequence of lines: headers, which open a table or one more element of an array of
tables, and keys with values, which go to the table of the last header. Arrays may go over
several lines and hold comments; tables between braces may not.
-/
namespace SchemaProjection.Toml

open Text (Reader)

/-- The number of segments of a key, and one more than the number of brackets around a value, must
be less than this. -/
def depthLimit : Nat := 80

/-- A text in which each line end is a line feed. -/
def withLineFeeds : List Char → List Char
  | [] => []
  | '\r' :: '\n' :: rest => '\n' :: withLineFeeds rest
  | c :: rest => c :: withLineFeeds rest

/-- Take blanks. -/
def blanks : Reader Unit := do
  let _ ← Reader.spanning isBlank

/-- Take a comment. -/
def comment : Reader Unit := do
  Reader.char '#'
  let _ ← Reader.spanning isPrintable

/-- Take the rest of a line, which holds no more than a comment. -/
def lineRest : Reader Unit := do
  blanks
  let _ ← Reader.maybe comment
  Reader.char '\n' <|> Reader.ending

/-- Take blanks, line ends and comments. -/
def filling : Reader Unit := do
  let _ ← Reader.many
    ((do let _ ← Reader.satisfying fun c => isBlank c || c == '\n') <|>
      (comment *> Reader.char '\n'))

/-- A character of a key without quotes. -/
def isBareChar (c : Char) : Bool := c.isAlphanum || c == '_' || c == '-'

/-- Take a segment of a key. -/
def segment : Reader String := do
  blanks
  let name ← basicText <|> literalText <|> do
    let first ← Reader.satisfying isBareChar
    let rest ← Reader.spanning isBareChar
    return String.ofList (first :: rest)
  blanks
  return name

/-- Take a dotted key: the segments before the last one, and the last one. -/
def key : Reader (List String × String) := do
  let names ← Reader.separated segment (Reader.char '.')
  match names.getLast? with
  | some last => if names.length < depthLimit then return (names.dropLast, last) else failure
  | none => failure

/-- A key with its value. -/
structure Pair where
  /-- The segments of the key before the last one. -/
  path : List String
  /-- The last segment of the key. -/
  key : String
  /-- The value. -/
  value : Value

/-- Take a key and its value. -/
def pair (value : Reader Value) : Reader Pair := do
  let (path, key) ← key
  Reader.char '='
  blanks
  return ⟨path, key, ← value⟩

/-- Take an array of values. -/
def array (value : Reader Value) : Reader Value := do
  Reader.char '['
  let item := filling *> value <* filling
  let items ← Reader.maybe (Reader.separated item (Reader.char ','))
  if items.isSome then
    let _ ← Reader.maybe (Reader.char ',')
  filling
  Reader.char ']'
  return .array (items.getD [])

/-- Give values to dotted keys one after the other. -/
def assignAll (entries : List (String × Node)) : List Pair → Option (List (String × Node))
  | [] => some entries
  | pair :: rest => do
    let larger ← Node.assign pair.path pair.key pair.value entries
    assignAll larger rest

/-- Take a table between braces. -/
def bracedTable (value : Reader Value) : Reader Value := do
  Reader.char '\x7b'
  let pairs ← Reader.maybe (Reader.separated (pair value <* blanks) (Reader.char ','))
  blanks
  Reader.char '\x7d'
  let entries ← (assignAll [] (pairs.getD []) : Option (List (String × Node)))
  return .table (Node.finishedEntries entries)

/-- Take a value without brackets. -/
def simple : Reader Value :=
  (Value.text <$> quotedText) <|> (Value.moment <$> moment) <|> (Value.float <$> decimal) <|>
    (Value.float <$> namedNumber) <|> (Value.integer <$> integer) <|>
    (Reader.chars ['t', 'r', 'u', 'e'] *> pure (.bool true)) <|>
    (Reader.chars ['f', 'a', 'l', 's', 'e'] *> pure (.bool false))

/-- Take a value with at most a number of brackets around each other. -/
def value : Nat → Reader Value
  | 0 => simple
  | depth + 1 => simple <|> array (value depth) <|> bracedTable (value depth)

/-- A line of a document. -/
inductive Line where
  /-- The header of a table. -/
  | table (path : List String) (key : String)
  /-- The header of an element of an array of tables. -/
  | element (path : List String) (key : String)
  /-- A key with its value. -/
  | assignment (pair : Pair)
  /-- Nothing. -/
  | blank

/-- Take a line. -/
def line : Reader Line := do
  blanks
  let content ← header <|> assignment <|> pure .blank
  lineRest
  return content
where
  /-- Take a header. -/
  header : Reader Line := do
    Reader.char '['
    let more ← Reader.maybe (Reader.char '[')
    let (path, key) ← key
    match more with
    | some _ => Reader.chars [']', ']'] *> pure (.element path key)
    | none => Reader.char ']' *> pure (.table path key)
  /-- Take a key and its value. -/
  assignment : Reader Line := Line.assignment <$> pair (value (depthLimit - 1))

/-- Read lines into a document, where `header` is the path of the table that is open. -/
def document (entries : List (String × Node)) (header : List String) :
    List Line → Option (List (String × Node))
  | [] => some entries
  | .blank :: rest => document entries header rest
  | .table path key :: rest => do
    let larger ← Node.openTable path key entries
    document larger (path ++ [key]) rest
  | .element path key :: rest => do
    let larger ← Node.openElement path key entries
    document larger (path ++ [key]) rest
  | .assignment pair :: rest => do
    let larger ← Node.assignAt header pair.path pair.key pair.value entries
    document larger header rest

/-- The text without the mark that may begin it. -/
def withoutMark : List Char → List Char
  | '\uFEFF' :: rest => rest
  | text => text

/-- The table of a text. -/
def ofText (text : String) : Option (List (String × Value)) := do
  let lines ← Reader.whole? (Reader.many line) (withLineFeeds (withoutMark text.toList))
  let entries ← document [] [] lines
  some (Node.finishedEntries entries)

end SchemaProjection.Toml
