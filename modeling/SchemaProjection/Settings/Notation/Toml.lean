import SchemaProjection.Settings.Value
import SchemaProjection.Toml.Document

/-!
# Settings in TOML

A value of a TOML document is a setting of the same shape. Dates and times are texts, also where
they are written as a table of one reserved name.
-/
namespace SchemaProjection.SettingValue

/-- The name that stands first in a table that is a date or a time; its value is the text of
it. -/
def momentName : String := "$__toml_private_datetime"

/-- The text of a date or a time that is written as a text. -/
def ofMoment? : Toml.Value → Option SettingValue
  | .text content => (Toml.momentOf? content).map .text
  | _ => none

mutual

/-- A value of a TOML document; dates and times are texts. -/
def ofToml? : Toml.Value → Option SettingValue
  | .text content => some (.text content)
  | .integer value => some (.integer value)
  | .float value => some (.float value)
  | .bool value => some (.bool value)
  | .moment canonical => some (.text canonical)
  | .array items => (ofTomlItems? items).map .list
  | .table entries => ofTomlTable? entries

/-- The items of a TOML array. -/
def ofTomlItems? : List Toml.Value → Option (List SettingValue)
  | [] => some []
  | item :: rest => do some ((← ofToml? item) :: (← ofTomlItems? rest))

/-- The group of a TOML table, or the date or time that the table is. -/
def ofTomlTable? : List (String × Toml.Value) → Option SettingValue
  | [] => some (.group [])
  | (name, value) :: rest =>
    if name = momentName then ofMoment? value
    else do some (.group ((name, ← ofToml? value) :: (← ofTomlEntries? rest)))

/-- The values of a TOML table. -/
def ofTomlEntries? : List (String × Toml.Value) → Option (List (String × SettingValue))
  | [] => some []
  | (name, value) :: rest => do some ((name, ← ofToml? value) :: (← ofTomlEntries? rest))

end

/-- The value of a text in TOML. -/
def ofTomlText? (text : String) : Option SettingValue := (Toml.ofText text).bind ofTomlTable?

end SchemaProjection.SettingValue
