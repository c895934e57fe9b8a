import SchemaProjection.Json.Partial
import SchemaProjection.Settings.Value

/-!
# Settings in JSON

A value of a JSON text is a setting of the same shape, and `null` is a missing value. The whole
text must be JSON; each number is in range, each text has a content, and arrays and objects
stand in each other only so deep.
-/
namespace SchemaProjection.SettingValue

open Json (Partial)

/-- The number of arrays and objects that may stand in each other. -/
def jsonDepth : Nat := 127

/-- The setting of a number. -/
def ofJsonMeaning : Json.Number.Meaning → SettingValue
  | .integer value =>
    match Number.word? value with
    | some word => .integer word
    | none => .float (Number.Double.ofRatio (value < 0) value.natAbs 1)
  | .double value => .float value

mutual

/-- The setting of a value without a fault. -/
def ofJson? (depth : Nat) : Partial → Option SettingValue
  | .fault => none
  | .null => some .missing
  | .bool value => some (.bool value)
  | .number number => number.meaning?.map ofJsonMeaning
  | .text content => content.map .text
  | .array items closed => do
    if depth = 0 || !closed then none
    else some (.list (← ofJsonItems? (depth - 1) items))
  | .object members closed => do
    if depth = 0 || !closed then none
    else some (groupOf (← ofJsonMembers? (depth - 1) members))

/-- The settings of items without a fault. -/
def ofJsonItems? (depth : Nat) : List Partial → Option (List SettingValue)
  | [] => some []
  | item :: rest => do some ((← ofJson? depth item) :: (← ofJsonItems? depth rest))

/-- The settings of members without a fault. -/
def ofJsonMembers? (depth : Nat) : List (Partial × Partial) → Option (List (String × SettingValue))
  | [] => some []
  | (.text (some name), value) :: rest => do
    some ((name, ← ofJson? depth value) :: (← ofJsonMembers? depth rest))
  | _ :: _ => none

end

/-- The value of a text in JSON. -/
def ofJsonText? (text : String) : Option SettingValue :=
  match Partial.ofText text with
  | (tree, true) => ofJson? jsonDepth tree
  | (_, false) => none

end SchemaProjection.SettingValue
