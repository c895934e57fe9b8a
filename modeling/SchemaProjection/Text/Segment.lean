/-!
# Separated names

A dotted path is a sequence of segments between dots, and a qualified name ends in a simple
name after its last separator. A text without a separator is one segment, and so is the empty
text.
-/
namespace SchemaProjection.Text

/-- The pieces of a text between the characters that separate it: always one more than there
are separators. -/
def pieces (separates : Char → Bool) : List Char → List (List Char)
  | [] => [[]]
  | c :: rest =>
    if separates c then [] :: pieces separates rest
    else match pieces separates rest with
      | [] => [[c]]
      | piece :: further => (c :: piece) :: further

/-- There is always a first piece. -/
theorem pieces_ne_nil (separates : Char → Bool) (text : List Char) :
    pieces separates text ≠ [] := by
  cases text with
  | nil => simp [pieces]
  | cons c rest =>
    simp only [pieces]
    split
    · simp
    · split <;> simp

/-- `PATH_SEPARATOR` — the character between the segments of a path. -/
def pathSeparator : Char := '.'

/-- The segments of a dotted path. -/
def segments (path : String) : List String :=
  (pieces (· == pathSeparator) path.toList).map String.ofList

/-- `last_segment` — the last segment of a dotted path. -/
def lastSegment (path : String) : String := (segments path).getLast?.getD path

/-- `simple_name` — a name without the qualifier that ends in its last dot or colon. -/
def simpleName (name : String) : String :=
  ((pieces (fun c => c == '.' || c == ':') name.toList).map String.ofList).getLast?.getD name

/-- Whether a text begins with another one. -/
def begins (beginning text : String) : Bool := beginning.toList.isPrefixOf text.toList

/-- Texts in order with a separator between neighbours. -/
def joined (separator : String) (texts : List String) : String := String.intercalate separator texts

end SchemaProjection.Text
