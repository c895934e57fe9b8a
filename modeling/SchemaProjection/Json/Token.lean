import SchemaProjection.Json.Number
import SchemaProjection.Text.Front

/-!
# Tokens of a JSON text

`tokens` divides a text into brackets, separators, literals, numbers and texts. A part that is
none of these ends the list with the token `fault`, so reading can still use what stands before
it. A text literal whose escapes name half a character is a token without a content: it is
accepted where values are passed over, and refused where a text is wanted.
-/
namespace SchemaProjection.Json

open SchemaProjection.Number (hexValue?)
open Text (Front)

/-- A part of a JSON text. -/
inductive Token where
  /-- `[` -/
  | openArray
  /-- `]` -/
  | closeArray
  /-- `{` -/
  | openObject
  /-- `}` -/
  | closeObject
  /-- `,` -/
  | comma
  /-- `:` -/
  | colon
  /-- `null` -/
  | null
  /-- `true` or `false` -/
  | bool (value : Bool)
  /-- A number. -/
  | number (value : Number)
  /-- A text literal and its content, if its escapes name whole characters. -/
  | text (content : Option String)
  /-- No token begins here. -/
  | fault
deriving Repr, DecidableEq

/-- A blank of the format. -/
def isSpace (c : Char) : Bool := c == ' ' || c == '\n' || c == '\t' || c == '\r'

/-- The value of four hexadecimal digits. -/
def unit? (first second third fourth : Char) : Option Nat := do
  let first ← hexValue? first
  let second ← hexValue? second
  let third ← hexValue? third
  let fourth ← hexValue? fourth
  some (((first * 16 + second) * 16 + third) * 16 + fourth)

/-- A unit that begins a character outside the first plane. -/
def isLeading (unit : Nat) : Bool := 0xD800 ≤ unit && unit ≤ 0xDBFF

/-- A unit that ends a character outside the first plane. -/
def isTrailing (unit : Nat) : Bool := 0xDC00 ≤ unit && unit ≤ 0xDFFF

/-- The character of a leading and a trailing unit. -/
def pairChar (leading trailing : Nat) : Char :=
  Char.ofNat (0x10000 + (leading - 0xD800) * 0x400 + (trailing - 0xDC00))

/-- The character that a one-letter escape names. -/
def simpleEscape? (c : Char) : Option Char :=
  if c == '"' || c == '\\' || c == '/' then some c
  else if c == 'b' then some '\x08'
  else if c == 'f' then some '\x0c'
  else if c == 'n' then some '\n'
  else if c == 'r' then some '\r'
  else if c == 't' then some '\t'
  else none

/-- Put a character in front of a content. -/
def prepend (c : Char) (rest : Option (List Char) × List Char) : Option (List Char) × List Char :=
  (rest.1.map (c :: ·), rest.2)

/-- Read a text literal after its opening quote: its content, none when an escape names half a
character, and the text after the closing quote. -/
def readText : List Char → Option (Option (List Char) × List Char)
  | [] => none
  | '"' :: rest => some (some [], rest)
  | '\\' :: 'u' :: a :: b :: c :: d :: rest =>
    match unit? a b c d with
    | none => none
    | some unit =>
      if isLeading unit then
        match rest with
        | '\\' :: 'u' :: e :: f :: g :: h :: further =>
          match unit? e f g h with
          | none => none
          | some trailing =>
            if isTrailing trailing then (readText further).map (prepend (pairChar unit trailing))
            else (readText ('\\' :: 'u' :: e :: f :: g :: h :: further)).map fun read =>
              (none, read.2)
        | rest => (readText rest).map fun read => (none, read.2)
      else if isTrailing unit then (readText rest).map fun read => (none, read.2)
      else (readText rest).map (prepend (Char.ofNat unit))
  | '\\' :: c :: rest =>
    match simpleEscape? c with
    | none => none
    | some meant => (readText rest).map (prepend meant)
  | c :: rest =>
    if c.toNat < 0x20 || c == '\\' then none else (readText rest).map (prepend c)

/-- Reading a text literal leaves a text that is shorter. -/
theorem readText_shorter {text : List Char} {content : Option (List Char)} {rest : List Char}
    (read : readText text = some (content, rest)) : rest.length < text.length := by
  fun_induction readText text generalizing content rest with
  | case1 => simp at read
  | case2 rest => simp at read; simp [← read.2]
  | _ => simp_all [prepend] <;> grind

/-- The run of digits at the front of a text. -/
def digitRun (text : List Char) : List Char := text.takeWhile Char.isDigit

/-- The text after its run of digits. -/
def afterDigits (text : List Char) : List Char := text.dropWhile Char.isDigit

/-- Read the fraction of a number: no digits when there is no point, nothing when no digit
follows the point. -/
def readFraction : List Char → Option (List Char × List Char)
  | '.' :: rest => if (digitRun rest).isEmpty then none else some (digitRun rest, afterDigits rest)
  | rest => some ([], rest)

/-- The sign of an exponent and the text after it. -/
def exponentSign : List Char → Bool × List Char
  | '-' :: rest => (true, rest)
  | '+' :: rest => (false, rest)
  | rest => (false, rest)

/-- Read the exponent of a number, if it has one; nothing when the exponent has no digit. -/
def readExponent : List Char → Option (Option (Bool × List Char) × List Char)
  | c :: rest =>
    if c == 'e' || c == 'E' then
      let (negative, digits) := exponentSign rest
      if (digitRun digits).isEmpty then none
      else some (some (negative, digitRun digits), afterDigits digits)
    else some (none, c :: rest)
  | [] => some (none, [])

/-- Read a number without its sign. A number begins with a zero only if that is its whole part. -/
def readUnsigned (negative : Bool) (text : List Char) : Option (Number × List Char) := do
  let whole := digitRun text
  if whole.isEmpty || (whole.head? == some '0' && whole.length > 1) then none
  else
    let (fraction, rest) ← readFraction (afterDigits text)
    let (exponent, rest) ← readExponent rest
    some (⟨negative, whole, fraction, exponent⟩, rest)

/-- Read a number. -/
def readNumber : List Char → Option (Number × List Char)
  | '-' :: rest => readUnsigned true rest
  | rest => readUnsigned false rest

theorem digits_length (text : List Char) :
    (digitRun text).length + (afterDigits text).length = text.length := by
  rw [← List.length_append, digitRun, afterDigits, List.takeWhile_append_dropWhile]

theorem readFraction_le {text digits rest : List Char}
    (read : readFraction text = some (digits, rest)) : rest.length ≤ text.length := by
  fun_cases readFraction text with
  | case1 rest empty => simp [readFraction, empty] at read
  | case2 inner some =>
    simp only [readFraction, some] at read
    have := digits_length inner
    grind
  | case3 => simp_all [readFraction]

theorem exponentSign_le (text : List Char) : (exponentSign text).2.length ≤ text.length := by
  fun_cases exponentSign text <;> simp_all

theorem readExponent_le {text rest : List Char} {exponent : Option (Bool × List Char)}
    (read : readExponent text = some (exponent, rest)) : rest.length ≤ text.length := by
  cases text with
  | nil => simp_all [readExponent]
  | cons c inner =>
    have sign := exponentSign_le inner
    have digits := digits_length (exponentSign inner).2
    simp only [readExponent] at read
    grind

theorem readUnsigned_shorter {negative : Bool} {text rest : List Char} {number : Number}
    (read : readUnsigned negative text = some (number, rest)) : rest.length < text.length := by
  have parts := digits_length text
  simp only [readUnsigned] at read
  split at read
  · simp at read
  · rename_i whole
    cases fraction : readFraction (afterDigits text) with
    | none => simp [fraction] at read
    | some fractionRest =>
      cases exponent : readExponent fractionRest.2 with
      | none => simp [fraction, exponent] at read
      | some exponentRest =>
        have first : fractionRest.2.length ≤ (afterDigits text).length := readFraction_le fraction
        have second : exponentRest.2.length ≤ fractionRest.2.length := readExponent_le exponent
        simp [fraction, exponent] at read
        have positive : 0 < (digitRun text).length := by
          apply List.length_pos_iff.mpr
          intro empty
          simp [empty] at whole
        rw [← read.2]
        omega

/-- Reading a number leaves a text that is shorter. -/
theorem readNumber_shorter {text rest : List Char} {number : Number}
    (read : readNumber text = some (number, rest)) : rest.length < text.length := by
  fun_cases readNumber text with
  | case1 inner =>
    have := readUnsigned_shorter (by simpa [readNumber] using read)
    simp
    omega
  | case2 => exact readUnsigned_shorter (by simpa [readNumber] using read)

/-- The tokens of a text, up to and with its first fault. -/
def tokens : List Char → List Token
  | [] => []
  | '[' :: rest => .openArray :: tokens rest
  | ']' :: rest => .closeArray :: tokens rest
  | '{' :: rest => .openObject :: tokens rest
  | '}' :: rest => .closeObject :: tokens rest
  | ',' :: rest => .comma :: tokens rest
  | ':' :: rest => .colon :: tokens rest
  | 'n' :: 'u' :: 'l' :: 'l' :: rest => .null :: tokens rest
  | 't' :: 'r' :: 'u' :: 'e' :: rest => .bool true :: tokens rest
  | 'f' :: 'a' :: 'l' :: 's' :: 'e' :: rest => .bool false :: tokens rest
  | '"' :: rest =>
    match literal : readText rest with
    | some (content, after) =>
      have := readText_shorter literal
      .text (content.map String.ofList) :: tokens after
    | none => [.fault]
  | c :: rest =>
    if isSpace c then tokens rest
    else match numeral : readNumber (c :: rest) with
      | some (number, after) =>
        have := readNumber_shorter numeral
        .number number :: tokens after
      | none => [.fault]
termination_by text => text.length
decreasing_by all_goals simp_all <;> omega

end SchemaProjection.Json
