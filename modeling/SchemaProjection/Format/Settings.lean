import SchemaProjection.Format
import SchemaProjection.Settings.Value

/-!
# Formats in settings

A setting is read with some freedom: a text may be given as a truth value or a number, a truth
value as a number or as one of a few words, and one of several names in any case of letters. A
record may be a group or a list of its fields in order.
-/
namespace SchemaProjection

/-- Why a setting has no meaning. -/
inductive SettingFault where
  /-- A value stands for no text or no truth value. -/
  | mistyped (expected : String)
  /-- A value has another shape, or is none of several names. -/
  | misshapen
deriving Repr, DecidableEq

namespace SettingValue

/-- The text that a value stands for. -/
def asText (expected : String) : SettingValue → Except SettingFault String
  | .text content => .ok content
  | .bool value => .ok (toString value)
  | .integer value => .ok (toString value)
  | .float value => .ok value.positional
  | .missing | .list _ | .group _ => .error (.mistyped expected)

/-- The truth value of a word. -/
def wordTruth? (word : String) : Option Bool :=
  if ["1", "true", "on", "yes"].contains word then some true
  else if ["0", "false", "off", "no"].contains word then some false
  else none

/-- The truth value that a value stands for; numbers are true except zero. -/
def asBool : SettingValue → Except SettingFault Bool
  | .bool value => .ok value
  | .integer value => .ok (value != 0)
  | .float value => .ok !value.isZero
  | .text content =>
    match wordTruth? (smallName content) with
    | some value => .ok value
    | none => .error (.mistyped "a boolean")
  | .missing | .list _ | .group _ => .error (.mistyped "a boolean")

end SettingValue

/-- Find the option of a name in any case of letters. -/
def Format.readSettingOption {α : Type} (options : List (String × α)) (name : String) :
    Except SettingFault α :=
  match options.find? fun entry =>
      SettingValue.smallName entry.1 == SettingValue.smallName name with
  | some entry => .ok entry.2
  | none => .error .misshapen

/-- Read one of several names, as a text or as the only name of a group. -/
def Format.readSettingChoice {α : Type} (options : List (String × α)) :
    SettingValue → Except SettingFault α
  | .text name | .group [(name, _)] => readSettingOption options name
  | _ => .error .misshapen

mutual

/-- Read a setting by its format. -/
def Format.readSetting {α : Type} : Format α → SettingValue → Except SettingFault α
  | .text expected => SettingValue.asText expected
  | .bool => SettingValue.asBool
  | .phrase read _ => fun value => do
    let content ← SettingValue.asText "a string" value
    (read content).mapError fun _ => .misshapen
  | .choice options _ => Format.readSettingChoice options
  | .list item => fun
    | .list items => items.mapM item.readSetting
    | _ => .error .misshapen
  | .optional present => fun
    | .missing => .ok none
    | value => (present.readSetting value).map some
  | .record _ layout build _ => fun
    | .group entries => (layout.readSettings entries).map build
    | .list items => (layout.readSettingRow items).map build
    | _ => .error .misshapen

/-- Read the fields of a record from a group. -/
def Fields.readSettings {values draft : Type} :
    Fields values draft → List (String × SettingValue) → Except SettingFault values
  | .none => fun _ => .ok ()
  | .field name format absent _ others => fun entries => do
    let value ← match entries.lookup name, absent with
      | some value, _ => format.readSetting value
      | none, some value => .ok value
      | none, none => .error .misshapen
    let values ← others.readSettings entries
    .ok (value, values)

/-- Read the fields of a record in order from a list. -/
def Fields.readSettingRow {values draft : Type} :
    Fields values draft → List SettingValue → Except SettingFault values
  | .none => fun _ => .ok ()
  | .field _ format absent _ others => fun items => do
    let value ← match items.head?, absent with
      | some value, _ => format.readSetting value
      | none, some value => .ok value
      | none, none => .error .misshapen
    let values ← others.readSettingRow items.tail
    .ok (value, values)

end

end SchemaProjection
