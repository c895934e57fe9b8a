import SchemaProjection.Declaration.Source
import SchemaProjection.Proofs.JsonGrammar
import SchemaProjection.Proofs.Lossless
import SchemaProjection.Proofs.TomlStart

/-!
# Where documents end

A document in JSON is an array or an object, so it ends in the bracket that closes it
(`Document.Spelled.closed`). Whatever follows it, its own tokens are the first ones of the whole,
and no other document begins with them (`Document.Spelled.unambiguous`). A document in TOML with
which a document in JSON begins consists of blanks (`Document.blank_of_spelled`), and then it
declares nothing (`Document.types_of_blank`).
-/
namespace SchemaProjection

open Json (Partial Token isSpace bind_eq_ok_iff map_eq_ok_iff mapError_eq_ok_iff)
open Json.Partial (ReadsValue Spells SpellsItems)

namespace Json.Partial

/-- An array or an object. -/
def Compound (value : Partial) : Prop :=
  (∃ items closed, value = .array items closed) ∨ ∃ members closed, value = .object members closed

/-- An array or object ends in a closing bracket. -/
theorem Spells.closed {tokens : List Token} {value : Partial} (spells : Spells tokens value)
    (compound : value.Compound) : Token.Closed tokens := by
  obtain ⟨items, closed, rfl⟩ | ⟨members, closed, rfl⟩ := compound
  · exact spells.closed_array
  · exact spells.closed_object

end Json.Partial

namespace Format

variable {α values draft : Type} {name : String} {layout : Fields values draft}
  {build : values → α} {parts : α → values} {value : Partial} {result : α}

/-- Only arrays and objects are records. -/
theorem compound_of_record
    (read : (Format.record name layout build parts).readJson value = .ok result) :
    value.Compound := by
  cases value with
  | array items closed => exact .inl ⟨items, closed, rfl⟩
  | object members closed => exact .inr ⟨members, closed, rfl⟩
  | _ =>
    simp only [readJson] at read
    cases read

/-- Only arrays are lists, and the first item of one is an item. -/
theorem exists_items_of_list {item : Format α} {results : List α}
    (read : (Format.list item).readJson value = .ok results) :
    ∃ items closed, value = .array items closed ∧
      ∀ first ∈ items.head?, ∃ result, item.readJson first = .ok result := by
  cases value with
  | array items closed =>
    refine ⟨items, closed, rfl, ?_⟩
    rintro first found
    obtain ⟨rest, rfl⟩ := List.head?_eq_some_iff.mp found
    simp only [readJson, readJsonItems] at read
    obtain ⟨result, read, -⟩ := bind_eq_ok_iff.mp read
    exact ⟨result, read⟩
  | _ =>
    simp only [readJson] at read
    cases read

/-- The first item of an array that is a record is the value of the first field. -/
theorem exists_field_of_row {β : Type} {field : String} {format : Format β} {absent : Option β}
    {hidden : β → Bool} {build : β × values → α} {parts : α → β × values} {items : List Partial}
    {closed : Bool}
    (read : (Format.record name (.field field format absent hidden layout) build parts).readJson
      (.array items closed) = .ok result) :
    ∀ first ∈ items.head?, ∃ value, format.readJson first = .ok value := by
  rintro first found
  obtain ⟨rest, rfl⟩ := List.head?_eq_some_iff.mp found
  simp only [readJson, Fields.readJsonRow] at read
  obtain ⟨_, read, -⟩ := bind_eq_ok_iff.mp read
  obtain ⟨value, read, -⟩ := bind_eq_ok_iff.mp read
  exact ⟨value, read⟩

end Format

namespace Document

/-- The first field of a document that stands as an array is an array of arrays and objects. -/
theorem exists_of_row {items : List Partial} {closed : Bool} {document : Document}
    (read : Document.format.readJson (.array items closed) = .ok document) :
    ∀ first ∈ items.head?, ∃ decls closed, first = .array decls closed ∧
      ∀ decl ∈ decls.head?, decl.Compound := by
  intro first found
  obtain ⟨types, read⟩ := Format.exists_field_of_row read first found
  obtain ⟨decls, closed, rfl, typed⟩ := Format.exists_items_of_list read
  refine ⟨decls, closed, rfl, fun decl found => ?_⟩
  obtain ⟨type, read⟩ := typed decl found
  exact Format.compound_of_record read

/-- Tokens that spell a document. -/
def Spelled (document : Document) (tokens : List Token) : Prop :=
  ∃ value, Spells tokens value ∧ Document.format.readJson value = .ok document

variable {document other : Document} {tokens others behind rest : List Token}

/-- A text is a document in JSON exactly when its tokens spell the document. -/
theorem ofText_json_eq_ok_iff {text : String} :
    Document.ofText .json text = .ok document ↔ document.Spelled (Json.tokens text.toList) := by
  rw [Document.ofText, mapError_eq_ok_iff, Format.ofJsonText_eq_ok_iff]
  constructor
  · rintro ⟨read, only⟩
    exact ⟨_, Partial.ofText_eq_iff.mp (Prod.ext rfl only), read⟩
  · rintro ⟨value, spells, read⟩
    rw [Partial.ofText_eq_iff.mpr spells]
    exact ⟨read, rfl⟩

/-- Blanks around a document without blanks do not matter. -/
theorem ofText_between_blanks (value : Json.Value) (before after : String)
    (read : Document.format.readJson value.tree = .ok document)
    (front : before.toList.all isSpace = true) (back : after.toList.all isSpace = true) :
    Document.ofText .json (before ++ value.compact ++ after) = .ok document := by
  obtain ⟨used, divided, spells⟩ := (value.readsValue_tokens []).spells
  rw [List.append_nil, List.append_nil] at divided
  refine ofText_json_eq_ok_iff.mpr ⟨value.tree, ?_, read⟩
  rw [String.toList_append, String.toList_append, List.append_assoc, Json.tokens_of_blank front,
    Json.Value.compact, String.toList_ofList, Json.Value.tokens_compact,
    Json.tokens_eq_nil_iff.mpr back, List.append_nil, divided]
  exact spells

/-- A document ends in a closing bracket. -/
theorem Spelled.closed (spelled : document.Spelled tokens) : Token.Closed tokens := by
  obtain ⟨value, spells, read⟩ := spelled
  exact spells.closed (Format.compound_of_record read)

/-- A document has tokens. -/
theorem Spelled.ne_nil (spelled : document.Spelled tokens) : tokens ≠ [] := by
  obtain ⟨value, spells, -⟩ := spelled
  cases spells <;> exact List.cons_ne_nil _ _

/-- No document begins with the tokens of another one. -/
theorem Spelled.unambiguous (one : document.Spelled tokens) (two : other.Spelled others)
    (same : tokens ++ rest = others ++ behind) : document = other ∧ rest = behind := by
  obtain ⟨value, spells, read⟩ := one
  obtain ⟨_, spells', read'⟩ := two
  obtain ⟨-, rfl, rfl⟩ := spells.unambiguous spells' same
  exact ⟨Except.ok.inj (read.symm.trans read'), rfl⟩

/-- An opening bracket or one that closes an array comes first. -/
def BracketFirst (tokens : List Token) : Prop :=
  ∃ token behind, tokens = token :: behind ∧
    (token = .openArray ∨ token = .closeArray ∨ token = .openObject)

/-- An array or object begins with a bracket. -/
theorem bracketFirst_of_compound {value : Partial} (spells : Spells tokens value)
    (compound : value.Compound) (rest : List Token) : BracketFirst (tokens ++ rest) := by
  obtain ⟨items, closed, rfl⟩ | ⟨members, closed, rfl⟩ := compound
  · cases spells <;> exact ⟨.openArray, _, rfl, by simp⟩
  · cases spells <;> exact ⟨.openObject, _, rfl, by simp⟩

/-- Behind the bracket that opens an array stands the bracket that closes it or its first item. -/
theorem exists_of_array {items : List Partial} {closed : Bool}
    (spells : Spells tokens (.array items closed)) :
    ∃ inside, tokens = .openArray :: inside ∧ (inside = [.closeArray] ∨
      ∃ item ∈ items.head?, ∃ front behind, inside = front ++ behind ∧ Spells front item) := by
  cases spells with
  | emptyArray => exact ⟨_, rfl, .inl rfl⟩
  | array inside =>
    cases inside with
    | last first | more first _ => exact ⟨_, rfl, .inr ⟨_, rfl, _, _, rfl, first⟩⟩

/-- An array of which the first item is an array or object has another bracket behind its own. -/
theorem exists_bracketFirst_of_array {items : List Partial} {closed : Bool}
    (spells : Spells tokens (.array items closed)) (compound : ∀ item ∈ items.head?, item.Compound)
    (rest : List Token) :
    ∃ inside, tokens = .openArray :: inside ∧ BracketFirst (inside ++ rest) := by
  obtain ⟨inside, rfl, rfl | ⟨item, first, front, behind, rfl, spelled⟩⟩ := exists_of_array spells
  · exact ⟨_, rfl, .closeArray, rest, rfl, by simp⟩
  · refine ⟨_, rfl, ?_⟩
    rw [List.append_assoc]
    exact bracketFirst_of_compound spelled (compound item first) _

/-- No key begins where a bracket is the first token. -/
theorem keyless_of_bracketFirst {text : List Char} (first : BracketFirst (Json.tokens text)) :
    Toml.Keyless text := by
  intro c begins
  obtain ⟨token, behind, divided, rfl | rfl | rfl⟩ := first
  all_goals
    obtain ⟨rest, same, -⟩ := Json.exists_of_tokens_bracket rfl divided
    rw [same] at begins
    cases begins
    simp

/-- A text of which the first tokens are a document in JSON begins like one. -/
theorem Spelled.bracketed {text : List Char} (spelled : document.Spelled tokens)
    (divided : Json.tokens text = tokens ++ rest) : Toml.Bracketed (text.dropWhile isSpace) := by
  obtain ⟨value, spells, read⟩ := spelled
  obtain ⟨items, closed, rfl⟩ | ⟨members, closed, rfl⟩ := Format.compound_of_record read
  · obtain ⟨inside, rfl, content⟩ := exists_of_array spells
    rw [List.cons_append] at divided
    obtain ⟨behind, begins, left⟩ := Json.exists_of_tokens_bracket rfl divided
    rw [begins]
    obtain rfl | ⟨item, found, front, others, rfl, inner⟩ := content
    · refine .bracket (keyless_of_bracketFirst ⟨.closeArray, rest, left, by simp⟩) ?_
      rintro further rfl
      rw [Json.tokens] at left
      cases left
    · obtain ⟨decls, closed, rfl, compound⟩ := exists_of_row read item found
      obtain ⟨inside, rfl, bracket⟩ := exists_bracketFirst_of_array inner compound (others ++ rest)
      refine .bracket (keyless_of_bracketFirst ⟨.openArray, _, left, by simp⟩) ?_
      rintro further rfl
      rw [Json.tokens, List.append_assoc, List.cons_append] at left
      rw [← (List.cons.inj left).2] at bracket
      exact keyless_of_bracketFirst bracket
  · obtain ⟨inside, rfl⟩ : ∃ inside, tokens = .openObject :: inside := by
      cases spells <;> exact ⟨_, rfl⟩
    obtain ⟨behind, begins, -⟩ := Json.exists_of_tokens_bracket rfl divided
    rw [begins]
    exact .brace behind

/-- A document of blanks in TOML declares nothing. -/
theorem types_of_blank {text : String} (blank : text.toList.all isSpace = true)
    (read : Document.ofText .toml text = .ok document) : document.types = [] := by
  rw [Document.ofText] at read
  split at read
  case h_1 found =>
    cases read
    obtain ⟨entries, table, found⟩ := Option.bind_eq_some_iff.mp found
    obtain rfl := Toml.ofText_of_blank blank table
    cases found
    rfl
  case h_2 => cases read

/-- A document in TOML with which a document in JSON begins consists of blanks. -/
theorem blank_of_spelled {text : String} {more : List Char}
    (spelled : other.Spelled tokens)
    (divided : Json.tokens (text.toList ++ more) = tokens ++ rest)
    (read : Document.ofText .toml text = .ok document) : text.toList.all isSpace = true := by
  obtain blank | bracketed := (spelled.bracketed divided).of_append
  · exact blank
  · have refused := Toml.ofText_of_bracketed bracketed
    rw [Document.ofText, Format.ofTomlText, refused] at read
    cases read

end Document

end SchemaProjection
