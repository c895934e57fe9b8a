import SchemaProjection.Proofs.JsonTokens

/-!
# Layouts of written JSON

The new lines and the indentation of a document are blanks between its tokens, so a document with
an item to a line is divided into the same tokens as one without blanks, and both are read back as
the same tree, also with a new line behind them (`Value.IsLayout`).
-/
namespace SchemaProjection.Json

/-- The indentation of a line is no part of a token. -/
theorem tokens_newLine (depth : Nat) (rest : List Char) :
    tokens (Value.newLine depth ++ rest) = tokens rest := by
  refine tokens_of_blank ?_ rest
  simp [Value.newLine, isSpace]

/-- The blank behind a colon is no part of a token. -/
theorem tokens_blank (rest : List Char) : tokens (' ' :: rest) = tokens rest :=
  tokens_space rfl rest

namespace Value

mutual

/-- A document with an item to a line is divided into the tokens of the document. -/
theorem tokens_pretty (depth : Nat) (value : Value) (rest : List Char) :
    Json.tokens (value.prettyChars depth ++ rest) = value.tokens ++ Json.tokens rest := by
  cases value with
  | null => simp [prettyChars, tokens, Json.tokens]
  | bool value => exact tokens_bool value rest
  | text content => exact tokens_literal content rest
  | array items =>
    cases items with
    | nil => simp [prettyChars, tokens, Json.tokens]
    | cons first others =>
      simp only [prettyChars, tokens, List.cons_append, List.append_assoc, Json.tokens,
        tokens_newLine, tokens_pretty _ first, tokens_prettyItems _ others]
  | object members =>
    cases members with
    | nil => simp [prettyChars, tokens, Json.tokens]
    | cons member others =>
      obtain ⟨key, value⟩ := member
      simp only [prettyChars, tokens, List.cons_append, List.append_assoc, Json.tokens,
        tokens_newLine, tokens_literal, tokens_blank, tokens_pretty _ value,
        tokens_prettyMembers _ others]

/-- The items after the first, each on its line, are divided into their tokens. -/
theorem tokens_prettyItems (depth : Nat) (items : List Value) (rest : List Char) :
    Json.tokens (prettyItems depth items ++ rest) = itemTokens items ++ Json.tokens rest := by
  cases items with
  | nil =>
    simp only [prettyItems, itemTokens, List.append_assoc, tokens_newLine, List.cons_append,
      Json.tokens, List.nil_append]
  | cons first others =>
    simp only [prettyItems, itemTokens, List.cons_append, List.append_assoc, Json.tokens,
      tokens_newLine, tokens_pretty _ first, tokens_prettyItems _ others]

/-- The members after the first, each on its line, are divided into their tokens. -/
theorem tokens_prettyMembers (depth : Nat) (members : List (String × Value)) (rest : List Char) :
    Json.tokens (prettyMembers depth members ++ rest) =
      memberTokens members ++ Json.tokens rest := by
  cases members with
  | nil =>
    simp only [prettyMembers, memberTokens, List.append_assoc, tokens_newLine, List.cons_append,
      Json.tokens, List.nil_append]
  | cons member others =>
    obtain ⟨key, value⟩ := member
    simp only [prettyMembers, memberTokens, List.cons_append, List.append_assoc, Json.tokens,
      tokens_newLine, tokens_literal, tokens_blank, tokens_pretty _ value,
      tokens_prettyMembers _ others]

end

/-- A text is a layout of a document: whatever follows, it is divided into the tokens of the
document. -/
def IsLayout (text : String) (value : Value) : Prop :=
  ∀ rest, Json.tokens (text.toList ++ rest) = value.tokens ++ Json.tokens rest

/-- A document without blanks is a layout of it. -/
theorem isLayout_compact (value : Value) : IsLayout value.compact value := by
  rw [IsLayout, compact, String.toList_ofList]
  exact tokens_compact value

/-- A document with an item to a line is a layout of it. -/
theorem isLayout_pretty (value : Value) : IsLayout value.pretty value := by
  rw [IsLayout, pretty, String.toList_ofList]
  exact tokens_pretty 0 value

/-- A new line behind a layout does not matter. -/
theorem IsLayout.line {text : String} {value : Value} (layout : IsLayout text value) :
    IsLayout (text ++ "\n") value := by
  intro rest
  have blank : Json.tokens ("\n".toList ++ rest) = Json.tokens rest := tokens_of_blank rfl rest
  rw [String.toList_append, List.append_assoc, layout, blank]

/-- From a layout the tree of the document is read, and nothing else stands in it. -/
theorem IsLayout.ofText {text : String} {value : Value} (layout : IsLayout text value) :
    Partial.ofText text = (value.tree, true) := by
  have divided := layout []
  rw [List.append_nil, Json.tokens] at divided
  have read : Partial.ReadsValue (Json.tokens text.toList) value.tree [] :=
    divided ▸ readsValue_tokens value []
  exact read.ofText

end Value

end SchemaProjection.Json
