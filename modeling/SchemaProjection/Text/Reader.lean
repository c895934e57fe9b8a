/-!
# Readers

A reader takes a value from the front of a text and leaves the rest of it, or refuses. A reader
that is tried and refuses leaves the text as it was. Repetition ends at the first reading that
refuses or takes nothing, so it ends.
-/
namespace SchemaProjection.Text

/-- Takes a value from the front of a text, or refuses. -/
abbrev Reader := StateT (List Char) Option

namespace Reader

variable {α : Type}

/-- Take one character that satisfies a condition. -/
def satisfying (holds : Char → Bool) : Reader Char := fun
  | c :: rest => if holds c then some (c, rest) else none
  | [] => none

/-- Take a given character. -/
def char (expected : Char) : Reader Unit := do
  let _ ← satisfying (· == expected)

/-- Take given characters in order. -/
def chars : List Char → Reader Unit
  | [] => pure ()
  | expected :: rest => do
    char expected
    chars rest

/-- Take the characters up to the first that does not satisfy a condition. -/
def spanning (holds : Char → Bool) : Reader (List Char) := fun text =>
  some (text.takeWhile holds, text.dropWhile holds)

/-- Take what a reader takes, or nothing. -/
def maybe (item : Reader α) : Reader (Option α) := (some <$> item) <|> pure none

/-- Whether the text begins with given characters. -/
def ahead (expected : List Char) : Reader Bool := fun text =>
  some (expected.isPrefixOf text, text)

/-- Whether the next character satisfies a condition. -/
def nextIs (holds : Char → Bool) : Reader Bool := fun text => some (text.head?.any holds, text)

/-- Take nothing at the end of the text. -/
def ending : Reader Unit := fun
  | [] => some ((), [])
  | _ :: _ => none

/-- The values that a reader takes one after the other, and the text after them. -/
def repeated (item : Reader α) (text : List Char) : List α × List Char :=
  match item text with
  | none => ([], text)
  | some (value, rest) =>
    if rest.length < text.length then
      let (values, last) := repeated item rest
      (value :: values, last)
    else ([], text)
termination_by text.length

/-- Take as many values as follow. -/
def many (item : Reader α) : Reader (List α) := fun text => some (repeated item text)

/-- Take values with a separator between neighbours. -/
def separated (item : Reader α) (separator : Reader Unit) : Reader (List α) := do
  let first ← item
  let rest ← many (separator *> item)
  return first :: rest

/-- Take items up to a closing bracket, with a comma between neighbours and perhaps one behind
the last. Around items and commas stands what `filling` takes. -/
def listed (filling : Reader Unit) (item : Reader α) (close : Char) : Reader (List α) := do
  filling
  let items ← maybe (separated (item <* filling) (char ',' *> filling))
  if items.isSome then
    let _ ← maybe (char ',' *> filling)
  char close
  return items.getD []

/-- Take a number of characters that satisfy a condition. -/
def exactly (holds : Char → Bool) : Nat → Reader (List Char)
  | 0 => pure []
  | count + 1 => do
    let first ← satisfying holds
    let rest ← exactly holds count
    return first :: rest

/-- What a reader takes of a whole text. -/
def whole? (item : Reader α) (text : List Char) : Option α :=
  match item text with
  | some (value, []) => some value
  | _ => none

end Reader

end SchemaProjection.Text
