import SchemaProjection.Number.Numeral
import SchemaProjection.Yaml.Cursor

/-!
# Scalars of a YAML text

A scalar is written plainly, between quotes, or as a block of lines. In the first two, a single
line end between words is a blank, and of more the first one does not count. In a block every
line end counts, or is folded in the same way between lines that begin with no blank.
-/
namespace SchemaProjection.Yaml

open Number (basedValue isDigitIn)

/-- Line ends. -/
def lineFeeds (count : Nat) : List Char := List.replicate count '\n'

/-- What stands between two words. -/
structure Gap where
  /-- The blanks before the first line end. -/
  blanks : List Char
  /-- The number of line ends. -/
  breaks : Nat

namespace Gap

/-- What a gap stands for. -/
def text (gap : Gap) : List Char :=
  match gap.breaks with
  | 0 => gap.blanks
  | 1 => [' ']
  | breaks + 2 => lineFeeds (breaks + 1)

/-- Take blanks and line ends, with fuel for each. Behind a line end a tab must not stand before a
margin; `broken` tells whether a line end is passed. -/
def take (margin : Int) : Nat → Bool → Gap → Cursor → Option (Gap × Cursor)
  | 0, _, gap, cursor => some (gap, cursor)
  | fuel + 1, broken, gap, cursor =>
    let c := cursor.peek
    if isBlank c then
      if !broken then take margin fuel false ⟨gap.blanks ++ [c], gap.breaks⟩ cursor.skip
      else if c == '\t' && cursor.column < margin then none
      else take margin fuel true gap cursor.skip
    else if isBreak c then
      take margin fuel true ⟨gap.blanks, gap.breaks + 1⟩ cursor.skipBreak
    else some (gap, cursor)

/-- The gap at a place, and the place behind it. -/
def ofCursor? (margin : Int) (broken : Bool) (cursor : Cursor) : Option (Gap × Cursor) :=
  take margin cursor.rest.length broken ⟨[], 0⟩ cursor

end Gap

/-- The word of a plain scalar at the front of a text. -/
def plainWord (inFlow : Bool) : List Char → List Char
  | [] => []
  | c :: rest =>
    let next := rest.headD '\x00'
    if isSpace c || (c == ':' && (isSpace next || (inFlow && isFlow next))) ||
        (inFlow && isFlow c) then []
    else c :: plainWord inFlow rest

/-- A plain scalar, the place behind it and behind the gap after it, and whether that gap holds a
line end. Outside brackets its further lines must not begin before a margin. -/
def plain? (inFlow : Bool) (margin : Int) : Nat → Cursor → Option (List Char × Cursor × Bool)
  | 0, cursor => some ([], cursor, false)
  | fuel + 1, cursor => do
    if cursor.atDocumentMark || cursor.peek == '#' then return ([], cursor, false)
    let word := plainWord inFlow cursor.rest
    let after := cursor.skips word.length
    if !isBlank after.peek && !isBreak after.peek then return (word, after, false)
    let (gap, next) ← Gap.ofCursor? margin false after
    let broken := decide (0 < gap.breaks)
    if !inFlow && next.column < margin then return (word, next, broken)
    let (more, last, moreBroken) ← plain? inFlow margin fuel next
    if more.isEmpty then return (word, last, broken)
    return (word ++ gap.text ++ more, last, moreBroken)

/-- The character that an escape of one letter names. -/
def simpleEscape? : Char → Option Char
  | '0' => some '\x00'
  | 'a' => some '\x07'
  | 'b' => some '\x08'
  | 't' | '\t' => some '\t'
  | 'n' => some '\n'
  | 'v' => some '\x0b'
  | 'f' => some '\x0c'
  | 'r' => some '\r'
  | 'e' => some '\x1b'
  | ' ' => some ' '
  | '"' => some '"'
  | '\'' => some '\''
  | '\\' => some '\\'
  | 'N' => some '\u0085'
  | '_' => some '\u00A0'
  | 'L' => some '\u2028'
  | 'P' => some '\u2029'
  | _ => none

/-- The number of digits that follow the letter of an escape. -/
def escapeLength : Char → Nat
  | 'x' => 2
  | 'u' => 4
  | 'U' => 8
  | _ => 0

/-- The character of an escape at the place of its letter, and the place behind it. -/
def escape? (cursor : Cursor) : Option (Char × Cursor) :=
  match simpleEscape? cursor.peek with
  | some meant => some (meant, cursor.skip)
  | none =>
    let length := escapeLength cursor.peek
    let digits := cursor.skip.rest.take length
    let code := basedValue 16 digits
    if length != 0 && digits.length == length && digits.all (isDigitIn 16) && code.isValidChar then
      some (Char.ofNat code, cursor.skips (length + 1))
    else none

/-- The content of a quoted scalar behind its opening quote, and the place behind the closing one.
Between single quotes a quote is written twice, and between double quotes there are escapes, of
which the one of a line end joins two lines. -/
def quoted? (isSingle : Bool) : Nat → Cursor → Option (List Char × Cursor)
  | 0, _ => none
  | fuel + 1, cursor => do
    let c := cursor.peek
    if cursor.atDocumentMark || isEnd c then failure
    else if c == (if isSingle then '\'' else '"') then
      if isSingle && cursor.peekAt 1 == '\'' then
        let (content, last) ← quoted? isSingle fuel (cursor.skips 2)
        return ('\'' :: content, last)
      else return ([], cursor.skip)
    else if isBlank c || isBreak c then
      let (gap, next) ← Gap.ofCursor? 0 false cursor
      let (content, last) ← quoted? isSingle fuel next
      return (gap.text ++ content, last)
    else if c == '\\' && !isSingle then
      if isBreak (cursor.peekAt 1) then
        let (gap, next) ← Gap.ofCursor? 0 true cursor.skip.skipBreak
        let (content, last) ← quoted? isSingle fuel next
        return (lineFeeds gap.breaks ++ content, last)
      else
        let (meant, next) ← escape? cursor.skip
        let (content, last) ← quoted? isSingle fuel next
        return (meant :: content, last)
    else
      let (content, last) ← quoted? isSingle fuel cursor.skip
      return (c :: content, last)

/-- Which line ends at the end of a block count. -/
inductive Chomping where
  /-- None. -/
  | strip
  /-- The one of the last line. -/
  | clip
  /-- All. -/
  | keep
deriving Repr, DecidableEq

/-- The head of a block. -/
structure BlockHead where
  /-- Which line ends at the end count. -/
  chomping : Chomping
  /-- The indentation over that of the surroundings, zero if the lines tell it. -/
  increment : Nat

/-- The chomping that a character stands for. -/
def Chomping.ofChar? (c : Char) : Option Chomping :=
  if c == '+' then some .keep else if c == '-' then some .strip else none

/-- The head of a block behind its mark, and the place behind the line of the head. -/
def BlockHead.ofCursor? (cursor : Cursor) : Option (BlockHead × Cursor) := do
  let before := Chomping.ofChar? cursor.peek
  let cursor := if before.isSome then cursor.skip else cursor
  let digit := cursor.peek
  if digit == '0' then failure
  let increment := if digit.isDigit then Number.digitValue digit else 0
  let cursor := if digit.isDigit then cursor.skip else cursor
  let behind := if before.isNone && digit.isDigit then Chomping.ofChar? cursor.peek else none
  let cursor := if behind.isSome then cursor.skip else cursor
  return (⟨(before.or behind).getD .clip, increment⟩, ← cursor.lineRest?)

/-- Take the spaces that indent lines, and empty lines, with fuel for each: the widest column, the
number of empty lines, and the place behind. An indentation of zero is not known yet. -/
def blockGap? (indent : Nat) : Nat → Nat → Nat → Cursor → Option (Nat × Nat × Cursor)
  | 0, widest, breaks, cursor => some (widest, breaks, cursor)
  | fuel + 1, widest, breaks, cursor =>
    let spaces := (cursor.rest.takeWhile (· == ' ')).length
    let cursor := cursor.skips (if indent == 0 then spaces else min spaces (indent - cursor.column))
    let widest := max widest cursor.column
    if (indent == 0 || cursor.column < indent) && cursor.peek == '\t' then none
    else if isBreak cursor.peek then blockGap? indent fuel widest (breaks + 1) cursor.skipBreak
    else some (widest, breaks, cursor)

/-- The lines of a block with fuel for each: their text, whether the last one has a line end, the
number of empty lines behind it, and the place behind those. -/
def blockLines? (isLiteral : Bool) (indent : Nat) :
    Nat → (broken afterBlank : Bool) → (breaks : Nat) → Cursor →
      Option (List Char × Bool × Nat × Cursor)
  | 0, broken, _, breaks, cursor => some ([], broken, breaks, cursor)
  | fuel + 1, broken, afterBlank, breaks, cursor => do
    if cursor.column != indent || isEnd cursor.peek then return ([], broken, breaks, cursor)
    let atBlank := isBlank cursor.peek
    let isFolded := !isLiteral && broken && !afterBlank && !atBlank
    let lead := if !broken || (isFolded && breaks != 0) then []
      else if isFolded then [' ']
      else ['\n']
    let (line, after) := cursor.spanning (!isLineEnd ·)
    let text := lead ++ lineFeeds breaks ++ line
    if isEnd after.peek then return (text, false, 0, after)
    let after := after.skipBreak
    let (_, breaks, next) ← blockGap? indent (after.rest.length + 1) 0 0 after
    let (more, last) ← blockLines? isLiteral indent fuel true atBlank breaks next
    return (text ++ more, last)

/-- A block of lines behind its mark, in surroundings of an indentation, and the place behind
it. -/
def block? (isLiteral : Bool) (outer : Int) (cursor : Cursor) : Option (List Char × Cursor) := do
  let (head, cursor) ← BlockHead.ofCursor? cursor
  let indent := if head.increment == 0 then 0 else (max outer 0).toNat + head.increment
  let (widest, breaks, cursor) ← blockGap? indent (cursor.rest.length + 1) 0 0 cursor
  let indent := if indent == 0 then max widest (max (outer + 1).toNat 1) else indent
  let (text, broken, breaks, cursor) ←
    blockLines? isLiteral indent (cursor.rest.length + 1) false false breaks cursor
  let ending := match head.chomping with
    | .strip => []
    | .clip => if broken then ['\n'] else []
    | .keep => (if broken then ['\n'] else []) ++ lineFeeds breaks
  return (text ++ ending, cursor)

end SchemaProjection.Yaml
