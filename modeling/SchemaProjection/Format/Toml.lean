import SchemaProjection.Format
import SchemaProjection.Toml.Document

/-!
# Formats in TOML

A record stands as a table, whose other names are passed over, or as an array of its fields in
order, where fields at the end may be left out and further items are passed over. One of several
names stands as a text, or as the name of an empty value in a table that holds nothing else.
-/
namespace SchemaProjection

namespace Format

/-- An empty array or table. -/
def isEmptyToml : Toml.Value → Bool
  | .array items => items.isEmpty
  | .table entries => entries.isEmpty
  | _ => false

/-- Read one of several names. -/
def readTomlChoice {α : Type} (options : List (String × α)) : Toml.Value → Option α
  | .text name => options.lookup name
  | .table [(name, value)] => if isEmptyToml value then options.lookup name else none
  | _ => none

end Format

mutual

/-- Read a value by its format. -/
def Format.readToml {α : Type} : Format α → Toml.Value → Option α
  | .text _ => fun
    | .text content => some content
    | _ => none
  | .bool => fun
    | .bool value => some value
    | _ => none
  | .phrase read _ => fun
    | .text content => (read content).toOption
    | _ => none
  | .choice options _ => Format.readTomlChoice options
  | .list item => fun
    | .array items => items.mapM item.readToml
    | _ => none
  | .optional present => fun value => (present.readToml value).map some
  | .record _ layout build _ => fun
    | .table entries => (layout.readToml entries).map build
    | .array items => (layout.readTomlRow items).map build
    | .moment _ => (layout.readToml []).map build
    | _ => none

/-- Read the fields of a record from a table. -/
def Fields.readToml {values draft : Type} :
    Fields values draft → List (String × Toml.Value) → Option values
  | .none => fun _ => some ()
  | .field name format absent _ others => fun entries => do
    let value ← match entries.lookup name with
      | some value => format.readToml value
      | none => absent
    let values ← others.readToml entries
    some (value, values)

/-- Read the fields of a record in order from an array. -/
def Fields.readTomlRow {values draft : Type} :
    Fields values draft → List Toml.Value → Option values
  | .none => fun _ => some ()
  | .field _ format absent _ others => fun items => do
    let value ← match items.head? with
      | some value => format.readToml value
      | none => absent
    let values ← others.readTomlRow items.tail
    some (value, values)

end

/-- Read a TOML text by a format. -/
def Format.ofTomlText {α : Type} (format : Format α) (text : String) : Option α := do
  let entries ← Toml.ofText text
  format.readToml (.table entries)

end SchemaProjection
