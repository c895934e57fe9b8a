/-!
# Formats of stored values

A format describes how the values of a type stand in a document: as a text, a truth value, one
of several names, a list, or a record of named fields. The same description is read from JSON,
from TOML and from layered settings, and is written to JSON, so that all agree on the names of
the fields, on their order and on what stands for a field that is left out.
-/
namespace SchemaProjection

mutual

/-- How values of a type stand in a document. -/
inductive Format : Type → Type 1 where
  /-- A text; `expected` names what belongs there. -/
  | text (expected : String) : Format String
  /-- A truth value. -/
  | bool : Format Bool
  /-- A text with a grammar of its own: what it means or why it is refused, and its canonical
  form. -/
  | phrase {α : Type} (read : String → Except String α) (write : α → String) : Format α
  /-- One of several names. -/
  | choice {α : Type} (options : List (String × α)) (name : α → String) : Format α
  /-- Any number of values in order. -/
  | list {α : Type} (item : Format α) : Format (List α)
  /-- A value that may be missing. -/
  | optional {α : Type} (present : Format α) : Format (Option α)
  /-- A record of named fields. -/
  | record {α values draft : Type} (name : String) (layout : Fields values draft)
      (build : values → α) (parts : α → values) : Format α

/-- The named fields of a record in order. The values of a record are a tuple; a draft of it
holds for every field the value that was found, if one was. -/
inductive Fields : Type → Type → Type 1 where
  /-- No field. -/
  | none : Fields Unit Unit
  /-- A field before the others: its name, its format, the value it has when it is left out if
  it may be, and the values that are left out when written. -/
  | field {α values draft : Type} (name : String) (format : Format α) (absent : Option α)
      (hidden : α → Bool) (others : Fields values draft) : Fields (α × values) (Option α × draft)

end

namespace Fields

variable {α values draft : Type}

/-- A field that every record has. -/
def required (name : String) (format : Format α) (others : Fields values draft) :
    Fields (α × values) (Option α × draft) :=
  .field name format .none (fun _ => false) others

/-- A field with a value when it is left out; it is always written. -/
def defaulted (name : String) (format : Format α) (absent : α) (others : Fields values draft) :
    Fields (α × values) (Option α × draft) :=
  .field name format (some absent) (fun _ => false) others

/-- A field that is written only when it has a value. -/
def maybe (name : String) (format : Format α) (others : Fields values draft) :
    Fields (Option α × values) (Option (Option α) × draft) :=
  .field name (.optional format) (some .none) Option.isNone others

/-- The number of fields. -/
def count {values draft : Type} : Fields values draft → Nat
  | .none => 0
  | .field _ _ _ _ others => others.count + 1

/-- A draft in which no field has been found. -/
def blank {values draft : Type} : Fields values draft → draft
  | .none => ()
  | .field _ _ _ _ others => (.none, others.blank)

/-- The values of a draft, or the first field that has none. -/
def complete {values draft : Type} : Fields values draft → draft → Except String values
  | .none => fun _ => .ok ()
  | .field name _ absent _ others => fun (found, draft) =>
    match found.or absent with
    | .none => .error name
    | some value => (others.complete draft).map (value, ·)

end Fields

namespace Format

/-- A text. -/
def string : Format String := .text "a string"

end Format

end SchemaProjection
