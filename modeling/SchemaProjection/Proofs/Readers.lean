import Mathlib.Data.List.TakeWhile
import SchemaProjection.Text.Reader

/-!
# What readers take

A reader after another one goes on behind what that took. What a reader takes from the front of a
text is told by the characters at the front and by the first one behind them, and a repetition
takes value after value as long as there is one.
-/
namespace SchemaProjection.Text.Reader

variable {α β : Type} {text rest : List Char}

/-- A reader after another one goes on behind what that took. -/
theorem bind_apply (first : Reader α) (next : α → Reader β) (text : List Char) :
    (first >>= next) text = (first text).bind fun read => next read.1 read.2 := rfl

/-- Of two readers after each other, the value of the second may count alone. -/
theorem seqRight_apply (first : Reader α) (second : Reader β) (text : List Char) :
    (first *> second) text = (first text).bind fun read => second read.2 := rfl

/-- Of two readers after each other, the value of the first may count alone. -/
theorem seqLeft_apply (first : Reader α) (second : Reader β) (text : List Char) :
    (first <* second) text =
      (first text).bind fun read => (second read.2).bind fun behind => some (read.1, behind.2) :=
  rfl

/-- A changed value is taken from the same characters. -/
theorem map_apply (change : α → β) (item : Reader α) (text : List Char) :
    (change <$> item) text = (item text).map fun read => (change read.1, read.2) := by
  cases read : item text <;> simp [Functor.map, StateT.map, read]

/-- The second of two readers is tried when the first refuses. -/
theorem orElse_apply (first second : Reader α) (text : List Char) :
    (first <|> second) text = (first text).or (second text) := by
  cases read : first text <;>
    simp [HOrElse.hOrElse, OrElse.orElse, Alternative.orElse, StateT.orElse, read]

/-- No character is taken if the first does not satisfy the condition. -/
theorem satisfying_eq_none {holds : Char → Bool} (other : ∀ c ∈ text.head?, holds c = false) :
    satisfying holds text = none := by
  cases text with
  | nil => rfl
  | cons c rest => simp [satisfying, other c rfl]

/-- A given character is not taken if another one comes first. -/
theorem char_eq_none {expected : Char} (other : ∀ c ∈ text.head?, c ≠ expected) :
    char expected text = none := by
  rw [char, bind_apply, satisfying_eq_none fun c first => by simpa using other c first]
  rfl

/-- The first character is taken if it satisfies the condition. -/
theorem satisfying_cons {holds : Char → Bool} {c : Char} (taken : holds c = true)
    (rest : List Char) : satisfying holds (c :: rest) = some (c, rest) := by
  rw [satisfying, if_pos taken]

/-- A given character is taken if it comes first. -/
theorem char_cons (c : Char) (rest : List Char) : char c (c :: rest) = some ((), rest) := by
  have taken : satisfying (· == c) (c :: rest) = some (c, rest) := satisfying_cons (by simp) rest
  rw [char, bind_apply, taken]
  rfl

/-- Given characters are taken if they come first. -/
theorem chars_append (expected rest : List Char) :
    chars expected (expected ++ rest) = some ((), rest) := by
  induction expected with
  | nil => rfl
  | cons c further ih => rw [chars, List.cons_append, bind_apply, char_cons, Option.bind_some, ih]

/-- Characters are taken up to the first that does not satisfy the condition. -/
theorem spanning_append {holds : Char → Bool} (all : ∀ c ∈ text, holds c = true)
    (ends : ∀ c ∈ rest.head?, holds c = false) :
    spanning holds (text ++ rest) = some (text, rest) := by
  have stops : rest.takeWhile holds = [] ∧ rest.dropWhile holds = rest := by
    cases rest with
    | nil => exact ⟨rfl, rfl⟩
    | cons c further => simp [ends c rfl]
  rw [spanning, List.takeWhile_append_of_pos all, List.dropWhile_append_of_pos all, stops.1,
    stops.2, List.append_nil]

/-- Where a reader refuses, it need not take anything. -/
theorem maybe_of_none {item : Reader α} (refuses : item text = none) :
    maybe item text = some (none, text) := by
  rw [maybe, orElse_apply, map_apply, refuses]
  rfl

/-- Where a reader takes something, it is taken though it may be missing. -/
theorem maybe_of_some {item : Reader α} {value : α} (takes : item text = some (value, rest)) :
    maybe item text = some (some value, rest) := by
  rw [maybe, orElse_apply, map_apply, takes]
  rfl

/-- A repetition ends where the reader refuses. -/
theorem repeated_of_none {item : Reader α} (refuses : item text = none) :
    repeated item text = ([], text) := by
  rw [repeated, refuses]

/-- A repeated reader goes on behind what the reader takes. -/
theorem repeated_of_some {item : Reader α} {value : α} (takes : item text = some (value, rest))
    (shorter : rest.length < text.length) :
    repeated item text = (value :: (repeated item rest).1, (repeated item rest).2) := by
  rw [repeated, takes]
  simp only [shorter, if_true]

end SchemaProjection.Text.Reader
