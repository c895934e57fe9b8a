/-!
# Reading from the front of a text

A reader takes a value from the front of a text and returns the rest of it. The result carries
the fact that something was taken, which is why a loop of readings ends.
-/
namespace SchemaProjection.Text

/-- A value read from the front of a text, with the rest of the text. -/
structure Front (text : List Char) (α : Type) where
  /-- The value. -/
  value : α
  /-- The text after it. -/
  rest : List Char
  /-- Something was read. -/
  shorter : rest.length < text.length

/-- Dropping characters from the front leaves a text that is no longer. -/
theorem dropWhile_length_le (holds : Char → Bool) (text : List Char) :
    (text.dropWhile holds).length ≤ text.length := by
  induction text with
  | nil => simp
  | cons head tail ih =>
    by_cases kept : holds head
    · simpa [List.dropWhile, kept] using Nat.le_succ_of_le ih
    · simp [List.dropWhile, kept]

end SchemaProjection.Text
