import SchemaProjection.Proofs.SavedText

/-!
# Saved values are read back

A saved text is a value of its own, and a truth value is its name. A list is saved between
brackets, with a line for each item if there are more than one. Its items are read back one by
one, up to the comma behind the last one (`repeated_laterItems`), behind which no further item
begins (`item_close`). So a list of texts is read back (`value_savedList`).
-/
namespace SchemaProjection.Toml

open Settings (quotesOf savedList savedText textChars)
open Text (Reader)

variable {rest : List Char}

/-- A saved text is a value, if no quote follows it. -/
theorem simple_textChars (content : String) (ends : ∀ c ∈ rest.head?, c ≠ '"' ∧ c ≠ '\'') :
    simple (textChars content ++ rest) = some (.text content, rest) := by
  simp only [simple, Reader.orElse_apply, Reader.map_apply, quotedText_textChars content ends]
  rfl

/-- A saved text is a value at every depth of brackets, if no quote follows it. -/
theorem value_textChars (depth : Nat) (content : String)
    (ends : ∀ c ∈ rest.head?, c ≠ '"' ∧ c ≠ '\'') :
    value depth (textChars content ++ rest) = some (.text content, rest) := by
  cases depth with
  | zero => exact simple_textChars content ends
  | succ depth =>
    rw [value, Reader.orElse_apply, simple_textChars content ends]
    rfl

/-- A truth value is read back from its name. -/
theorem value_bool (depth : Nat) (truth : Bool) (rest : List Char) :
    value depth ((toString truth).toList ++ rest) = some (.bool truth, rest) := by
  cases depth <;> cases truth <;> rfl

/-- No value begins with a closing bracket. -/
theorem value_close (depth : Nat) (rest : List Char) : value depth (']' :: rest) = none := by
  cases depth <;> rfl

/-- An array is a value. -/
theorem value_of_array {depth : Nat} {text : List Char} {read : Value × List Char}
    (taken : array (value depth) ('[' :: text) = some read) :
    value (depth + 1) ('[' :: text) = some read := by
  have other : simple ('[' :: text) = none := rfl
  rw [value, Reader.orElse_apply, Reader.orElse_apply, other, taken]
  rfl

/-- Whether a character is neither a blank nor a line end, and begins no comment. -/
def isSolid (c : Char) : Bool := !(isBlank c || c == '\n' || c == '#')

/-- Nothing is taken in front of a solid character. -/
theorem filling_of_solid (solid : ∀ c ∈ rest.head?, isSolid c = true) :
    filling rest = some ((), rest) := by
  simp only [isSolid, Bool.not_eq_true', Bool.or_eq_false_iff, beq_eq_false_iff_ne] at solid
  have blank : Reader.satisfying (fun c => isBlank c || c == '\n') rest = none := by
    refine Reader.satisfying_eq_none fun c first => ?_
    rw [(solid c first).1.1, Bool.false_or, beq_eq_false_iff_ne]
    exact (solid c first).1.2
  have hash : Reader.char '#' rest = none := Reader.char_eq_none fun c first => (solid c first).2
  rw [filling, Reader.bind_apply, Reader.many, Reader.repeated_of_none]
  · rfl
  · rw [Reader.orElse_apply, Reader.bind_apply, blank, Option.bind_none, Option.none_or, comment,
      Reader.seqRight_apply, Reader.bind_apply, hash]
    rfl

/-- Blanks and line ends are taken up to the first solid character. -/
theorem filling_append {space : List Char}
    (all : space.all (fun c => isBlank c || c == '\n') = true)
    (solid : ∀ c ∈ rest.head?, isSolid c = true) :
    filling (space ++ rest) = some ((), rest) := by
  induction space with
  | nil => exact filling_of_solid solid
  | cons c space ih =>
    rw [List.all_cons, Bool.and_eq_true] at all
    have taken := ih all.2
    rw [filling, Reader.bind_apply, Reader.many, Option.bind_some] at taken ⊢
    have step : ((do let _ ← Reader.satisfying fun c => isBlank c || c == '\n') <|>
        (comment *> Reader.char '\n')) (c :: (space ++ rest)) = some ((), space ++ rest) := by
      rw [Reader.orElse_apply, Reader.bind_apply, Reader.satisfying_cons all.1]
      rfl
    rw [List.cons_append, Reader.repeated_of_some step (Nat.lt_succ_self _)]
    exact taken

/-- There is no item before the bracket that closes an array. -/
theorem item_close (depth : Nat) {space : List Char}
    (all : space.all (fun c => isBlank c || c == '\n') = true) :
    (filling *> value depth <* filling) (space ++ ']' :: rest) = none := by
  rw [Reader.seqLeft_apply, Reader.seqRight_apply,
    filling_append all (by rintro c first; cases first; rfl), Option.bind_some, value_close,
    Option.bind_none]

/-- A saved text begins with a quote. -/
theorem head_textChars (content : String) (rest : List Char) :
    ∀ c ∈ (textChars content ++ rest).head?, c = '"' ∨ c = '\'' := by
  intro c first
  rw [textChars, List.append_assoc, List.append_assoc, List.append_assoc] at first
  cases quotes : quotesOf content.toList <;> (rw [quotes] at first; cases first; simp)

/-- A saved text is an item of an array, with blanks and line ends before it and a comma or a
bracket behind. -/
theorem item_textChars {depth : Nat} {space : List Char}
    (all : space.all (fun c => isBlank c || c == '\n') = true) (content : String)
    (ends : ∀ c ∈ rest.head?, c = ',' ∨ c = ']') :
    (filling *> value depth <* filling) (space ++ (textChars content ++ rest)) =
      some (.text content, rest) := by
  have first : ∀ c ∈ (textChars content ++ rest).head?, isSolid c = true := by
    intro c first
    obtain rfl | rfl := head_textChars content rest c first <;> rfl
  have solid : ∀ c ∈ rest.head?, isSolid c = true := by
    intro c first
    obtain rfl | rfl := ends c first <;> rfl
  have takes := value_textChars depth content fun c first => by
    obtain rfl | rfl := ends c first <;> decide
  rw [Reader.seqLeft_apply, Reader.seqRight_apply, filling_append all first, Option.bind_some,
    takes, Option.bind_some, filling_of_solid solid, Option.bind_some]

/-- The items behind the first one of a list that is saved item by item. -/
def laterItems (items : List String) : List Char :=
  items.flatMap fun item => ',' :: '\n' :: ' ' :: ' ' :: ' ' :: ' ' :: textChars item

/-- A comma stands before the items behind the first one, or behind the last. -/
theorem head_laterItems (items : List String) (rest : List Char) :
    ∀ c ∈ (laterItems items ++ ',' :: rest).head?, c = ',' ∨ c = ']' := by
  intro c first
  cases items <;> (cases first; exact .inl rfl)

/-- The items behind the first one are read back, up to the comma behind the last. -/
theorem repeated_laterItems (depth : Nat) (items : List String) (rest : List Char) :
    Reader.repeated (Reader.char ',' *> (filling *> value depth <* filling))
        (laterItems items ++ ',' :: '\n' :: ']' :: rest) =
      (items.map .text, ',' :: '\n' :: ']' :: rest) := by
  induction items with
  | nil =>
    have close : (filling *> value depth <* filling) (['\n'] ++ ']' :: rest) = none :=
      item_close depth rfl
    exact Reader.repeated_of_none close
  | cons item items ih =>
    have taken : (filling *> value depth <* filling) (['\n', ' ', ' ', ' ', ' '] ++
        (textChars item ++ (laterItems items ++ ',' :: '\n' :: ']' :: rest))) =
          some (.text item, laterItems items ++ ',' :: '\n' :: ']' :: rest) :=
      item_textChars rfl item (head_laterItems items _)
    have step : (Reader.char ',' *> (filling *> value depth <* filling))
        (laterItems (item :: items) ++ ',' :: '\n' :: ']' :: rest) =
          some (.text item, laterItems items ++ ',' :: '\n' :: ']' :: rest) := by
      rw [laterItems, List.flatMap_cons, List.append_assoc]
      exact taken
    rw [Reader.repeated_of_some step, ih]
    · rfl
    · simp [laterItems]
      omega

/-- An array that is closed at once is empty. -/
theorem array_close (depth : Nat) (rest : List Char) :
    array (value depth) ('[' :: ']' :: rest) = some (.array [], rest) := by
  have refuses : (filling *> value depth <* filling) (']' :: rest) = none :=
    @item_close rest depth [] rfl
  have items : Reader.maybe (Reader.separated (filling *> value depth <* filling)
      (Reader.char ',')) (']' :: rest) = some (none, ']' :: rest) := by
    refine Reader.maybe_of_none ?_
    rw [Reader.separated, Reader.bind_apply, refuses, Option.bind_none]
  have filled : filling (']' :: rest) = some ((), ']' :: rest) :=
    filling_of_solid (by rintro c first; cases first; rfl)
  rw [array, Reader.bind_apply, Reader.char_cons, Option.bind_some]
  dsimp only
  rw [Reader.bind_apply, items, Option.bind_some]
  dsimp only
  rw [Option.isSome_none, if_neg Bool.false_ne_true, Reader.bind_apply, filled, Option.bind_some,
    Reader.bind_apply, Reader.char_cons]
  rfl

/-- An array holds its first item and those behind commas, and perhaps a comma with a line end
before its bracket. -/
theorem array_of_items {depth : Nat} {text mid behind : List Char} {first : Value}
    {more : List Value} (one : (filling *> value depth <* filling) text = some (first, mid))
    (others : Reader.repeated (Reader.char ',' *> (filling *> value depth <* filling)) mid =
      (more, behind))
    (ends : behind = ']' :: rest ∨ behind = ',' :: '\n' :: ']' :: rest) :
    array (value depth) ('[' :: text) = some (.array (first :: more), rest) := by
  have items : Reader.maybe (Reader.separated (filling *> value depth <* filling)
      (Reader.char ',')) text = some (some (first :: more), behind) := by
    refine Reader.maybe_of_some ?_
    rw [Reader.separated, Reader.bind_apply, one, Option.bind_some, Reader.bind_apply, Reader.many,
      others]
    rfl
  rw [array, Reader.bind_apply, Reader.char_cons, Option.bind_some]
  dsimp only
  rw [Reader.bind_apply, items, Option.bind_some]
  dsimp only
  rw [if_pos Option.isSome_some, Reader.bind_apply]
  have solid : ∀ c ∈ (']' :: rest).head?, isSolid c = true := by
    rintro c first
    cases first
    rfl
  rcases ends with rfl | rfl
  · have no : Reader.char ',' (']' :: rest) = none := rfl
    rw [Reader.maybe_of_none no, Option.bind_some, Reader.bind_apply, filling_of_solid solid,
      Option.bind_some, Reader.bind_apply, Reader.char_cons]
    rfl
  · have line : filling ('\n' :: ']' :: rest) = some ((), ']' :: rest) :=
      @filling_append _ ['\n'] rfl solid
    rw [Reader.maybe_of_some (Reader.char_cons ',' _), Option.bind_some, Reader.bind_apply, line,
      Option.bind_some, Reader.bind_apply, Reader.char_cons]
    rfl

/-- Lines of items are the items behind the first one with what ends the lines before them. -/
theorem flatMap_lines (first : String) (items : List String) :
    (first :: items).flatMap (fun item => ' ' :: ' ' :: ' ' :: ' ' :: (textChars item ++
        [',', '\n'])) =
      ' ' :: ' ' :: ' ' :: ' ' :: (textChars first ++ (laterItems items ++ [',', '\n'])) := by
  induction items generalizing first with
  | nil => simp [laterItems]
  | cons item items ih =>
    rw [List.flatMap_cons, ih item]
    simp [laterItems]

/-- A list of more than one item has a line for each. -/
theorem toList_savedList (first second : String) (items : List String) :
    (savedList (first :: second :: items)).toList =
      '[' :: '\n' :: ' ' :: ' ' :: ' ' :: ' ' :: (textChars first ++
        (laterItems (second :: items) ++ [',', '\n', ']'])) := by
  have line (item : String) : ("    " ++ savedText item ++ ",\n").toList =
      ' ' :: ' ' :: ' ' :: ' ' :: (textChars item ++ [',', '\n']) := by
    simp [savedText]
  rw [savedList, String.toList_append, String.toList_append, String.toList_join, List.flatMap_map]
  · simp only [line, flatMap_lines]
    simp
  · exact nofun
  · exact nofun

/-- A list is read back from how it is saved. -/
theorem value_savedList (depth : Nat) (items : List String) (rest : List Char) :
    value (depth + 1) ((savedList items).toList ++ rest) =
      some (.array (items.map .text), rest) := by
  have close : ∀ c ∈ (']' :: rest).head?, c = ',' ∨ c = ']' := by
    rintro c first
    cases first
    exact .inr rfl
  match items with
  | [] => exact value_of_array (array_close depth rest)
  | [only] =>
    have saved : (savedList [only]).toList ++ rest = '[' :: (textChars only ++ ']' :: rest) := by
      simp [savedList, savedText]
    have one := @item_textChars _ depth [] rfl only close
    rw [saved]
    exact value_of_array (array_of_items one (Reader.repeated_of_none rfl) (.inl rfl))
  | first :: second :: items =>
    have one := @item_textChars _ depth ['\n', ' ', ' ', ' ', ' '] rfl first
      (head_laterItems (second :: items) ('\n' :: ']' :: rest))
    have others := repeated_laterItems depth (second :: items) rest
    rw [toList_savedList]
    simpa using value_of_array (array_of_items one others (.inr rfl))

/-- No carriage return stands in a saved list. -/
theorem not_mem_savedList (items : List String) : '\r' ∉ (savedList items).toList := by
  have text (item : String) : '\r' ∉ (savedText item).toList := by
    rw [savedText, String.toList_ofList]
    exact not_mem_textChars item
  match items with
  | [] => decide
  | [only] => simp [savedList, text]
  | first :: second :: items => simp [savedList, String.toList_join, text]

end SchemaProjection.Toml
