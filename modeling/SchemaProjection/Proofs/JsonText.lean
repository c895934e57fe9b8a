import Mathlib.Tactic.SplitIfs
import SchemaProjection.Json.Partial
import SchemaProjection.Json.Value

/-!
# Written JSON is read back

A document without blanks is divided into the tokens that it is made of, whatever characters its
texts hold: each is read back from its escape (`readText_escaped`), and a text ends at the first
quote that is not escaped. From these tokens the document is read as the tree of its own shape
(`Value.readsValue_tokens`), so nothing of a document is lost in its text
(`Value.ofText_compact`).
-/
namespace SchemaProjection.Json

open SchemaProjection.Number (hexValue?)

/-- A hexadecimal digit has the value that it stands for. -/
theorem hexValue?_hexDigit : ∀ value < 16, hexValue? (hexDigit value) = some value := by
  decide

/-- The unit of a control character is the character. -/
theorem unit?_control {code : Nat} (control : code < 0x20) :
    unit? '0' '0' (hexDigit (code / 16)) (hexDigit (code % 16)) = some code := by
  have high := hexValue?_hexDigit (code / 16) (by omega)
  have low := hexValue?_hexDigit (code % 16) (by omega)
  have zero : hexValue? '0' = some 0 := by decide
  simp only [unit?, zero, high, low, Option.bind_eq_bind, Option.bind_some, Option.some.injEq]
  omega

/-- An escape of one letter is read as the character that it names. -/
theorem readText_named {letter c : Char} (named : simpleEscape? letter = some c)
    (rest : List Char) :
    readText ('\\' :: letter :: rest) = (readText rest).map (prepend c) := by
  have short : letter ≠ 'u' := by
    rintro rfl
    cases named
  simp [readText, named, short]

/-- An escaped control character is read as the character. -/
theorem readText_control {c : Char} (control : c.toNat < 0x20) (rest : List Char) :
    readText ('\\' :: 'u' :: '0' :: '0' :: hexDigit (c.toNat / 16) :: hexDigit (c.toNat % 16) ::
      rest) = (readText rest).map (prepend c) := by
  have leading : isLeading c.toNat = false := by simp [isLeading]; omega
  have trailing : isTrailing c.toNat = false := by simp [isTrailing]; omega
  rw [readText, unit?_control control]
  simp only [leading, trailing, Bool.false_eq_true, ↓reduceIte, Char.ofNat_toNat]

/-- A character that needs no escape is read as it stands. -/
theorem readText_plain {c : Char} (quote : c ≠ '"') (backslash : c ≠ '\\')
    (printed : 0x20 ≤ c.toNat) (rest : List Char) :
    readText (c :: rest) = (readText rest).map (prepend c) := by
  have kept : ¬c.toNat < 0x20 := by omega
  simp [readText, backslash, kept]

/-- A character is read back from how it is written. -/
theorem readText_escaped (c : Char) (rest : List Char) :
    readText (escaped c ++ rest) = (readText rest).map (prepend c) := by
  have letter {named : Char} (name : Char) (same : (c == named) = true)
      (means : simpleEscape? name = some named) :
      readText (['\\', name] ++ rest) = (readText rest).map (prepend c) := by
    obtain rfl := eq_of_beq same
    exact readText_named means rest
  rw [escaped]
  split_ifs with quote backslash backspace feed line carriage tab control
  · exact letter _ quote rfl
  · exact letter _ backslash rfl
  · exact letter _ backspace rfl
  · exact letter _ feed rfl
  · exact letter _ line rfl
  · exact letter _ carriage rfl
  · exact letter _ tab rfl
  · exact readText_control control rest
  · exact readText_plain (by simpa using quote) (by simpa using backslash) (by omega) rest

/-- A content is read back from how it is written before the closing quote. -/
theorem readText_content (content rest : List Char) :
    readText (content.flatMap escaped ++ '"' :: rest) = some (some content, rest) := by
  induction content with
  | nil => rfl
  | cons c content ih =>
    rw [List.flatMap_cons, List.append_assoc, readText_escaped, ih]
    rfl

/-- The first token of a text literal is its content. -/
theorem tokens_literal (content : String) (rest : List Char) :
    tokens (literal content ++ rest) = .text (some content) :: tokens rest := by
  have read : readText (content.toList.flatMap escaped ++ '"' :: rest) =
      some (some content.toList, rest) := readText_content _ _
  have divided : literal content ++ rest =
      '"' :: (content.toList.flatMap escaped ++ '"' :: rest) := by
    simp [literal]
  rw [divided, tokens]
  split
  case h_1 found after same =>
    rw [read] at same
    cases same
    rw [Option.map_some, String.ofList_toList]
  case h_2 none => cases read.symm.trans none

/-- The first token of a truth value. -/
theorem tokens_bool (value : Bool) (rest : List Char) :
    tokens (boolChars value ++ rest) = .bool value :: tokens rest := by
  cases value <;> simp [boolChars, tokens]

namespace Value

mutual

/-- The tokens of a document. -/
def tokens : Value → List Token
  | .null => [.null]
  | .bool value => [.bool value]
  | .text content => [.text (some content)]
  | .array [] => [.openArray, .closeArray]
  | .array (first :: rest) => .openArray :: (first.tokens ++ itemTokens rest)
  | .object [] => [.openObject, .closeObject]
  | .object ((key, value) :: rest) =>
    .openObject :: .text (some key) :: .colon :: (value.tokens ++ memberTokens rest)

/-- The tokens of the items after the first, with the bracket that closes the array. -/
def itemTokens : List Value → List Token
  | [] => [.closeArray]
  | item :: rest => .comma :: (item.tokens ++ itemTokens rest)

/-- The tokens of the members after the first, with the bracket that closes the object. -/
def memberTokens : List (String × Value) → List Token
  | [] => [.closeObject]
  | (key, value) :: rest =>
    .comma :: .text (some key) :: .colon :: (value.tokens ++ memberTokens rest)

end

mutual

/-- The tree of a document. -/
def tree : Value → Partial
  | .null => .null
  | .bool value => .bool value
  | .text content => .text (some content)
  | .array items => .array (itemTrees items) true
  | .object members => .object (memberTrees members) true

/-- The trees of items. -/
def itemTrees : List Value → List Partial
  | [] => []
  | item :: rest => item.tree :: itemTrees rest

/-- The trees of members. -/
def memberTrees : List (String × Value) → List (Partial × Partial)
  | [] => []
  | (key, value) :: rest => (.text (some key), value.tree) :: memberTrees rest

end

mutual

/-- A document without blanks is divided into the tokens of the document. -/
theorem tokens_compact (value : Value) (rest : List Char) :
    Json.tokens (value.compactChars ++ rest) = value.tokens ++ Json.tokens rest := by
  cases value with
  | null => simp [compactChars, tokens, Json.tokens]
  | bool value => exact tokens_bool value rest
  | text content => exact tokens_literal content rest
  | array items =>
    cases items with
    | nil => simp [compactChars, tokens, Json.tokens]
    | cons first others =>
      simp only [compactChars, tokens, List.cons_append, List.append_assoc, Json.tokens,
        tokens_compact first, tokens_compactItems others]
  | object members =>
    cases members with
    | nil => simp [compactChars, tokens, Json.tokens]
    | cons member others =>
      obtain ⟨key, value⟩ := member
      simp only [compactChars, tokens, List.cons_append, List.append_assoc, Json.tokens,
        tokens_literal, tokens_compact value, tokens_compactMembers others]

/-- The items after the first without blanks are divided into their tokens. -/
theorem tokens_compactItems (items : List Value) (rest : List Char) :
    Json.tokens (compactItems items ++ rest) = itemTokens items ++ Json.tokens rest := by
  cases items with
  | nil => simp [compactItems, itemTokens, Json.tokens]
  | cons first others =>
    simp only [compactItems, itemTokens, List.cons_append, List.append_assoc, Json.tokens,
      tokens_compact first, tokens_compactItems others]

/-- The members after the first without blanks are divided into their tokens. -/
theorem tokens_compactMembers (members : List (String × Value)) (rest : List Char) :
    Json.tokens (compactMembers members ++ rest) = memberTokens members ++ Json.tokens rest := by
  cases members with
  | nil => simp [compactMembers, memberTokens, Json.tokens]
  | cons member others =>
    obtain ⟨key, value⟩ := member
    simp only [compactMembers, memberTokens, List.cons_append, List.append_assoc, Json.tokens,
      tokens_literal, tokens_compact value, tokens_compactMembers others]

end

end Value

namespace Partial

/-- A value is read from the front of tokens, and what is left of them. -/
def ReadsValue (tokens : List Token) (value : Partial) (rest : List Token) : Prop :=
  ∃ shorter, readValue tokens = (value, some ⟨rest, shorter⟩)

/-- Items are read from the front of tokens up to the bracket that closes their array. -/
def ReadsItems (tokens : List Token) (items : List Partial) (rest : List Token) : Prop :=
  ∃ shorter, readItems tokens = (items, some ⟨rest, shorter⟩)

/-- Members are read from the front of tokens up to the bracket that closes their object. -/
def ReadsMembers (tokens : List Token) (members : List (Partial × Partial))
    (rest : List Token) : Prop :=
  ∃ shorter, readMembers tokens = (members, some ⟨rest, shorter⟩)

variable {tokens behind rest : List Token} {item value : Partial} {items : List Partial}
  {key : Option String} {members : List (Partial × Partial)}

/-- The last item stands before the bracket that closes the array. -/
theorem ReadsValue.last (first : ReadsValue tokens item (.closeArray :: rest)) :
    ReadsItems tokens [item] rest := by
  obtain ⟨shorter, read⟩ := first
  refine ⟨Nat.lt_of_succ_lt shorter, ?_⟩
  rw [readItems]
  simp only [read]

/-- Further items stand behind a comma. -/
theorem ReadsValue.more (first : ReadsValue tokens item (.comma :: behind))
    (further : ReadsItems behind items rest) : ReadsItems tokens (item :: items) rest := by
  obtain ⟨shorter, read⟩ := first
  obtain ⟨still, others⟩ := further
  refine ⟨Nat.lt_trans still (Nat.lt_of_succ_lt shorter), ?_⟩
  rw [readItems]
  simp only [read, others, Option.map_some]

/-- The last member stands before the bracket that closes the object. -/
theorem ReadsValue.lastMember (first : ReadsValue tokens value (.closeObject :: rest)) :
    ReadsMembers (.text key :: .colon :: tokens) [(.text key, value)] rest := by
  obtain ⟨shorter, read⟩ := first
  refine ⟨by simp at shorter ⊢; omega, ?_⟩
  rw [readMembers]
  simp only [read]

/-- Further members stand behind a comma. -/
theorem ReadsValue.moreMembers (first : ReadsValue tokens value (.comma :: behind))
    (further : ReadsMembers behind members rest) :
    ReadsMembers (.text key :: .colon :: tokens) ((.text key, value) :: members) rest := by
  obtain ⟨shorter, read⟩ := first
  obtain ⟨still, others⟩ := further
  refine ⟨by simp at shorter ⊢; omega, ?_⟩
  rw [readMembers]
  simp only [read, others, Option.map_some]

/-- Items between brackets are an array. -/
theorem ReadsItems.array (inside : ∀ rest, tokens ≠ .closeArray :: rest)
    (read : ReadsItems tokens items rest) :
    ReadsValue (.openArray :: tokens) (.array items true) rest := by
  obtain ⟨shorter, read⟩ := read
  refine ⟨Nat.lt_succ_of_lt shorter, ?_⟩
  rw [readValue]
  · simp only [read, Option.map_some, Option.isSome_some]
  · exact fun rest => inside rest

/-- Members between brackets are an object. -/
theorem ReadsMembers.object (inside : ∀ rest, tokens ≠ .closeObject :: rest)
    (read : ReadsMembers tokens members rest) :
    ReadsValue (.openObject :: tokens) (.object members true) rest := by
  obtain ⟨shorter, read⟩ := read
  refine ⟨Nat.lt_succ_of_lt shorter, ?_⟩
  rw [readValue]
  · simp only [read, Option.map_some, Option.isSome_some]
  · exact fun rest => inside rest

/-- A text of which nothing is left behind a value holds this value alone. -/
theorem ReadsValue.ofText {text : String} (read : ReadsValue (Json.tokens text.toList) value []) :
    Partial.ofText text = (value, true) := by
  obtain ⟨shorter, read⟩ := read
  rw [Partial.ofText, read]

end Partial

namespace Value

open Partial (ReadsValue ReadsItems ReadsMembers)

/-- A document takes up at least one token. -/
theorem rest_shorter (value : Value) (rest : List Token) :
    rest.length < (value.tokens ++ rest).length := by
  have nonempty : value.tokens ≠ [] := by
    cases value with
    | array items => cases items <;> simp [Value.tokens]
    | object members => cases members <;> simp [Value.tokens]
    | _ => simp [Value.tokens]
  have positive := List.length_pos_iff.mpr nonempty
  rw [List.length_append]
  omega

/-- A document does not begin with the bracket that closes an array. -/
theorem tokens_ne_close (value : Value) (tokens rest : List Token) :
    value.tokens ++ tokens ≠ .closeArray :: rest := by
  cases value with
  | array items => cases items <;> simp [Value.tokens]
  | object members => cases members <;> simp [Value.tokens]
  | _ => simp [Value.tokens]

mutual

/-- A document is read from its tokens. -/
theorem readsValue_tokens (value : Value) (rest : List Token) :
    ReadsValue (value.tokens ++ rest) value.tree rest := by
  cases value with
  | null => exact ⟨rest_shorter _ rest, by simp [tokens, Partial.readValue, tree]⟩
  | bool value => exact ⟨rest_shorter _ rest, by simp [tokens, Partial.readValue, tree]⟩
  | text content => exact ⟨rest_shorter _ rest, by simp [tokens, Partial.readValue, tree]⟩
  | array items =>
    cases items with
    | nil =>
      exact ⟨rest_shorter _ rest, by simp [tokens, Partial.readValue, tree, itemTrees]⟩
    | cons first others =>
      have read := readsValue_tokens first (itemTokens others ++ rest)
      rw [tokens, List.cons_append, List.append_assoc, tree]
      exact (readsItems_tokens others read).array fun _ => tokens_ne_close first _ _
  | object members =>
    cases members with
    | nil =>
      exact ⟨rest_shorter _ rest, by simp [tokens, Partial.readValue, tree, memberTrees]⟩
    | cons member others =>
      obtain ⟨key, value⟩ := member
      have read := readsValue_tokens value (memberTokens others ++ rest)
      simp only [tokens, List.cons_append, List.append_assoc, tree]
      exact (readsMembers_tokens key others read).object fun _ same => by cases same

/-- Behind the first item of an array the others are read from their tokens. -/
theorem readsItems_tokens (others : List Value) {tokens rest : List Token} {first : Partial}
    (read : ReadsValue tokens first (itemTokens others ++ rest)) :
    ReadsItems tokens (first :: itemTrees others) rest := by
  cases others with
  | nil => exact read.last
  | cons second others =>
    rw [itemTokens, List.cons_append, List.append_assoc] at read
    exact read.more (readsItems_tokens others (readsValue_tokens second _))

/-- Behind the first member of an object the others are read from their tokens. -/
theorem readsMembers_tokens (key : String) (others : List (String × Value))
    {tokens rest : List Token} {first : Partial}
    (read : ReadsValue tokens first (memberTokens others ++ rest)) :
    ReadsMembers (.text (some key) :: .colon :: tokens)
      ((.text (some key), first) :: memberTrees others) rest := by
  cases others with
  | nil => exact read.lastMember
  | cons second others =>
    obtain ⟨second, value⟩ := second
    simp only [memberTokens, List.cons_append, List.append_assoc] at read
    exact read.moreMembers (readsMembers_tokens second others (readsValue_tokens value _))

end

/-- A document without blanks is read back as its tree, and nothing else stands in its text. -/
theorem ofText_compact (value : Value) : Partial.ofText value.compact = (value.tree, true) := by
  have divided : Json.tokens value.compact.toList = value.tokens ++ [] := by
    have tokens := tokens_compact value []
    rwa [List.append_nil, Json.tokens, ← String.toList_ofList (l := value.compactChars)] at tokens
  have read : ReadsValue (Json.tokens value.compact.toList) value.tree [] :=
    divided ▸ readsValue_tokens value []
  exact read.ofText

end Value

end SchemaProjection.Json
