/-!
# Similarity of texts

A text contains a pattern when the characters of the pattern stand in it in order, in either
case. The score of a text is that of the best such placement: every character that is found
counts, more so in the right case, at the beginning of a word or next to the one before it, and
every character that is passed over counts against it.

The placements are scored in a table of two rows, the first for an even and the second for an
odd number of characters found. The table is kept when one text after the other is compared
with a pattern: only the cells that begin a placement are cleared, so what earlier texts left
in the others takes part in the later scores.
-/
namespace SchemaProjection.Text

/-- What a character is for the beginning of a word. -/
inductive WordRole where
  /-- No character, before the first one. -/
  | start
  /-- A blank, slash, bar or bracket. -/
  | hardSeparator
  /-- Another punctuation mark. -/
  | softSeparator
  /-- A digit. -/
  | digit
  /-- A capital letter. -/
  | capital
  /-- Any other character. -/
  | letter
deriving Repr, DecidableEq

/-- The role of a character; only ASCII has separators, digits and capitals. -/
def WordRole.ofChar (c : Char) : WordRole :=
  if [' ', '/', '\\', '|', '(', ')', '[', ']', '\x7b', '\x7d'].contains c then .hardSeparator
  else if ('!' ≤ c && c ≤ '\'') || ('*' ≤ c && c ≤ '.') || (':' ≤ c && c ≤ '@') ||
      ('^' ≤ c && c ≤ '\x60') || c == '~' then .softSeparator
  else if c.isDigit then .digit
  else if c.isUpper then .capital
  else if c.toNat == 0 then .start
  else .letter

/-- What it is worth to find a character after another one. -/
def startBonus (previous current : WordRole) : Int :=
  match previous, current with
  | .start, _ | .hardSeparator, _ => 8
  | .softSeparator, _ => 7
  | .letter, .capital | .digit, .capital => 6
  | _, _ => 0

/-- The bonus of every character of a text; that of the first one counts twice. -/
def bonuses (text : List Char) : List Int :=
  let roles := text.map WordRole.ofChar
  match List.zipWith startBonus (.start :: roles) roles with
  | [] => []
  | first :: rest => 2 * first :: rest

/-- Equal characters, where ASCII letters are equal in either case. -/
def sameLetter (left right : Char) : Bool := left.toLower == right.toLower

/-- The leftmost places of the characters of a pattern in the rest of a text that begins at a
place, if all are found. -/
def places (place : Nat) : List Char → List Char → Option (List Nat)
  | _, [] => some []
  | [], _ :: _ => none
  | c :: rest, p :: pattern =>
    if sameLetter c p then (places (place + 1) rest pattern).map (place :: ·)
    else places (place + 1) rest (p :: pattern)

/-- The scores of the placements that end at a character. -/
structure ScoreCell where
  /-- The best score when the character is found. -/
  found : Int
  /-- The best score when the character is passed over. -/
  passed : Int
  /-- The bonus of a run of characters found next to each other. -/
  run : Int
deriving Repr, DecidableEq

namespace ScoreCell

/-- The score of what cannot be. -/
def least : Int := -32768

/-- The cell of no placement. -/
def blank : ScoreCell := ⟨least, least, 0⟩

/-- The cell of no character found. -/
def unstarted : ScoreCell := ⟨least, -1, 0⟩

instance : Inhabited ScoreCell := ⟨blank⟩

end ScoreCell

/-- A table of two rows, one after the other. -/
abbrev ScoreTable := Array ScoreCell

namespace ScoreTable

/-- A cell of the table. -/
def cell (table : ScoreTable) (index : Nat) : ScoreCell := table.getD index .blank

/-- Cut or extend the table to a number of cells. -/
def resize (table : ScoreTable) (count : Nat) : ScoreTable :=
  table.take count ++ Array.replicate (count - table.size) .blank

/-- Clear the row of no character found and the cell before the first place. -/
def prepare (table : ScoreTable) (width place : Nat) : ScoreTable :=
  (List.range width).foldl (fun table index => table.setIfInBounds index .unstarted)
    (table.setIfInBounds (width + place) .blank)

/-- Score one character of a text against one of the pattern: `row` and `before` are where the
rows of this and of the previous character of the pattern begin, and `column` is the place of the
character of the text, counted from one. -/
def score (table : ScoreTable) (row before column : Nat) (bonus : Int) (c p : Char) :
    ScoreTable :=
  let left := table.cell (row + column - 1)
  let diagonal := table.cell (before + column - 1)
  let current := table.cell (row + column)
  let passed := max (left.found - 4) (left.passed - 1)
  if sameLetter c p then
    let run := max (max left.run bonus) 4
    let found := max (diagonal.found + run) (diagonal.passed + bonus) + if c == p then 16 else 14
    (table.setIfInBounds (row + column - 1) { left with run }).setIfInBounds (row + column)
      ⟨found, passed, current.run⟩
  else table.setIfInBounds (row + column) ⟨ScoreCell.least, passed, 0⟩

/-- Score a text from a column on against one character of the pattern. -/
def scoreRow (table : ScoreTable) (row before column : Nat) (p : Char) :
    List (Char × Int) → ScoreTable
  | [] => table
  | (c, bonus) :: rest =>
    (table.score row before column bonus c p).scoreRow row before (column + 1) p rest

/-- Score a text against all characters of the pattern, each from its leftmost place on. -/
def scoreRows (table : ScoreTable) (width : Nat) (text : List (Char × Int)) (row before : Nat) :
    List (Char × Nat) → ScoreTable × Nat
  | [] => (table, before)
  | (p, place) :: rest =>
    (table.scoreRow row before (place + 1) p (text.drop place)).scoreRows width text before row rest

end ScoreTable

/-- The score of a text that contains a pattern, and the table that it leaves. -/
def similarity (table : ScoreTable) (pattern text : List Char) : Option Int × ScoreTable :=
  match places 0 text pattern with
  | none => (none, table)
  | some found =>
    let width := text.length + 1
    let table := (table.resize (2 * width)).prepare width (found.head?.getD 0)
    let (table, row) :=
      table.scoreRows width (text.zip (bonuses text)) width 0 (pattern.zip found)
    let last := found.getLast?.getD 0
    let ends := (List.range' last (width - last)).map fun column =>
      (table.cell (row + column)).found
    (some (ends.foldl max (ends.headD ScoreCell.least)), table)

/-- The names that contain a pattern with their scores, one compared after the other. -/
def similarities (table : ScoreTable) (pattern : List Char) : List String → List (String × Int)
  | [] => []
  | name :: rest =>
    let (score, table) := similarity table pattern name.toList
    match score with
    | some score => (name, score) :: similarities table pattern rest
    | none => similarities table pattern rest

/-- The last of the best. -/
def lastBest : List (String × Int) → Option (String × Int)
  | [] => none
  | (name, score) :: rest =>
    match lastBest rest with
    | some (other, best) => if best ≥ score then some (other, best) else some (name, score)
    | none => some (name, score)

/-- A choice of the name that a word may have been meant for, out of a list of names. -/
abbrev Suggester := List String → String → Option String

/-- `suggest` — the last of the names that are most similar to a word, none for the empty word. -/
def suggestion? (names : List String) (word : String) : Option String :=
  if word.isEmpty then none
  else (lastBest (similarities #[] word.toList names)).map (·.1)

end SchemaProjection.Text
