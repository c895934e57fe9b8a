import SchemaProjection.Text.CharClass
import SchemaProjection.Text.Front
import SchemaProjection.TypeExpr

/-!
# Reading type expressions

The grammar is a name, then optionally arguments in angle brackets with commas between them,
then any number of `[]`; blanks may stand before and after every part, but not inside a name
nor between the two brackets of a suffix. Reading stops at the first character that continues
no expression. That character and its byte offset are the fault, or the end of the text is.
-/
namespace SchemaProjection.TypeExpr

open Text (Front)

/-- `TypeRefError` — why a text is no type expression. -/
inductive Fault where
  /-- The text is empty or blank. -/
  | empty
  /-- A character stands where the expression cannot continue with it. -/
  | unexpected (found : Char) (offset : Nat) (input : String)
  /-- The text ends inside the expression. -/
  | unterminated (input : String)
deriving Repr, DecidableEq

/-- The message of a fault. -/
def Fault.message : Fault → String
  | .empty => "Empty type expression"
  | .unexpected found offset input =>
    s!"Unexpected '{found}' at offset {offset} in type expression '{input}'"
  | .unterminated input => s!"Unterminated type expression '{input}'"

/-- A character of a type name. -/
def isNameChar (c : Char) : Bool :=
  Text.isWordChar c || c == '_' || c == '$' || c == '.' || c == ':' || c == '?'

/-- What follows an array suffix is shorter. -/
theorem afterSuffix_length_lt {text rest : List Char}
    (following : Text.skipBlank text = '[' :: ']' :: rest) : rest.length < text.length := by
  have length := Text.skipBlank_length_le text
  rw [following, List.length_cons, List.length_cons] at length
  omega

/-- Count the array suffixes at the front of a text. -/
def readSuffixes (text : List Char) : Nat × List Char :=
  match _ : Text.skipBlank text with
  | '[' :: ']' :: rest =>
    let (count, last) := readSuffixes rest
    (count + 1, last)
  | rest => (0, rest)
termination_by text.length
decreasing_by exact afterSuffix_length_lt ‹_›

/-- Counting suffixes leaves a text that is no longer. -/
theorem readSuffixes_length_le (text : List Char) :
    (readSuffixes text).2.length ≤ text.length := by
  fun_induction readSuffixes text with
  | case1 text rest following count last counted ih =>
    rw [counted] at ih
    exact Nat.le_trans ih (Nat.le_of_lt (afterSuffix_length_lt following))
  | case2 text _ => exact Text.skipBlank_length_le text

mutual

/-- `Parser::parse_type` — read one expression, or return the text from the character it stops
at. -/
def read (text : List Char) : Except (List Char) (Front text TypeExpr) :=
  let start := Text.skipBlank text
  let name := start.takeWhile isNameChar
  let afterName := start.dropWhile isNameChar
  if named : name = [] then .error start
  else
    have nameShorter : afterName.length < text.length := by
      have parts : name.length + afterName.length = start.length := by
        rw [← List.length_append, List.takeWhile_append_dropWhile]
      have leading : start.length ≤ text.length := Text.skipBlank_length_le text
      have := List.length_pos_iff.mpr named
      omega
    have blanks := Text.skipBlank_length_le afterName
    match following : Text.skipBlank afterName with
    | '<' :: inner =>
      have innerShorter : inner.length < text.length := by
        rw [following] at blanks
        simp only [List.length_cons] at blanks
        omega
      match readArguments inner with
      | .error stuck => .error stuck
      | .ok ⟨arguments, rest, argumentsShorter⟩ =>
        .ok ⟨⟨String.ofList name, arguments, (readSuffixes rest).1⟩, (readSuffixes rest).2, by
          have := readSuffixes_length_le rest
          omega⟩
    | rest =>
      .ok ⟨⟨String.ofList name, [], (readSuffixes rest).1⟩, (readSuffixes rest).2, by
        have := readSuffixes_length_le rest
        rw [following] at blanks
        omega⟩
termination_by (text.length, 0)

/-- Read the arguments after an opening bracket, up to the bracket that closes them. -/
def readArguments (text : List Char) : Except (List Char) (Front text (List TypeExpr)) :=
  match read text with
  | .error stuck => .error stuck
  | .ok ⟨argument, rest, argumentShorter⟩ =>
    have blanks := Text.skipBlank_length_le rest
    match following : Text.skipBlank rest with
    | ',' :: further =>
      have furtherShorter : further.length < text.length := by
        rw [following] at blanks
        simp only [List.length_cons] at blanks
        omega
      match readArguments further with
      | .error stuck => .error stuck
      | .ok ⟨arguments, last, lastShorter⟩ => .ok ⟨argument :: arguments, last, by omega⟩
    | '>' :: last =>
      .ok ⟨[argument], last, by
        rw [following] at blanks
        simp only [List.length_cons] at blanks
        omega⟩
    | stuck => .error stuck
termination_by (text.length, 1)

end

/-- The number of bytes of a text. -/
def byteLength (text : List Char) : Nat := (String.ofList text).utf8ByteSize

/-- `Parser::unexpected` — the fault of a text whose reading stops before `stuck`. -/
def Fault.at (input : String) (stuck : List Char) : Fault :=
  match stuck with
  | found :: _ => .unexpected found (input.utf8ByteSize - byteLength stuck) input
  | [] => .unterminated input

/-- `TypeRef::from_str` — read a text as one type expression. -/
def parse (input : String) : Except Fault TypeExpr :=
  if input.toList.all Text.isBlank then .error .empty
  else match read input.toList with
    | .error stuck => .error (.at input stuck)
    | .ok front =>
      match Text.skipBlank front.rest with
      | [] => .ok front.value
      | stuck => .error (.at input stuck)

end SchemaProjection.TypeExpr
