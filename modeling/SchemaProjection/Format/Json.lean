import SchemaProjection.Format
import SchemaProjection.Json.Partial
import SchemaProjection.Json.Value
import SchemaProjection.Text.Quoted
import SchemaProjection.Text.Segment

/-!
# Formats in JSON

Reading a value by its format ends at the first thing in the text that does not fit, be it a
fault of the text or a value of the wrong type. A record stands as an object, whose members may
come in any order and whose other members are passed over, or as an array of its fields in
order, where fields at the end may be left out. One of several names stands as a text, or as
the key of an object whose value is `null`.
-/
namespace SchemaProjection

open Json (Partial)

/-- Why a JSON text is no value of a format. -/
inductive Json.Refusal where
  /-- The text is not JSON. -/
  | malformed
  /-- A value of another type. -/
  | mistyped (found expected : String)
  /-- A name that is none of the options. -/
  | unknownOption (found : String) (options : List String)
  /-- A field without a value. -/
  | missing (field : String)
  /-- A field with two values. -/
  | repeated (field : String)
  /-- An array that ends before a field without which there is no record. -/
  | short (length : Nat) (record : String) (size : Nat)
  /-- A text that its grammar refuses. -/
  | refused (reason : String)
deriving Repr, DecidableEq

namespace Json.Refusal

/-- A name in backquotes. -/
def named (name : String) : String := "\x60" ++ name ++ "\x60"

/-- The options as a fault lists them. -/
def optionList : List String → String
  | [] => "there are no variants"
  | [only] => "expected " ++ named only
  | [first, second] => "expected " ++ named first ++ " or " ++ named second
  | options => "expected one of " ++ Text.joined ", " (options.map named)

/-- The message of a refusal, none for a text that is not JSON. -/
def message : Refusal → Option String
  | .malformed => none
  | .mistyped found expected => some s!"invalid type: {found}, expected {expected}"
  | .unknownOption found options =>
    some ("unknown variant " ++ named found ++ ", " ++ optionList options)
  | .missing field => some ("missing field " ++ named field)
  | .repeated field => some ("duplicate field " ++ named field)
  | .short length record size =>
    let elements := if size == 1 then "1 element" else s!"{size} elements"
    some s!"invalid length {length}, expected struct {record} with {elements}"
  | .refused reason => some reason

end Json.Refusal

open Json (Refusal)

/-- The refusal of a value where another type belongs. -/
def Json.Partial.mistyped (expected : String) (value : Partial) : Refusal :=
  match value with
  | .fault => .malformed
  | .null => .mistyped "null" expected
  | .bool value => .mistyped ("boolean " ++ Refusal.named (toString value)) expected
  | .number numeral =>
    match numeral.description with
    | some words => .mistyped words expected
    | none => .malformed
  | .text (some content) => .mistyped ("string " ++ Text.quoted content) expected
  | .text none => .malformed
  | .array _ _ => .mistyped "sequence" expected
  | .object _ _ => .mistyped "map" expected

namespace Format

/-- Read a text that should satisfy an expectation. -/
def readJsonText (expected : String) : Partial → Except Refusal String
  | .text (some content) => .ok content
  | value => .error (value.mistyped expected)

/-- Find the option of a name. -/
def readOption {α : Type} (options : List (String × α)) (name : String) : Except Refusal α :=
  match options.lookup name with
  | some value => .ok value
  | none => .error (.unknownOption name (options.map (·.1)))

/-- Read one of several names. -/
def readJsonChoice {α : Type} (options : List (String × α)) : Partial → Except Refusal α
  | .text (some name) => readOption options name
  | .object ((.text (some name), value) :: further) closed => do
    let chosen ← readOption options name
    match value with
    | .null => if further.isEmpty && closed then .ok chosen else .error .malformed
    | value => .error (value.mistyped "unit")
  | _ => .error .malformed

/-- Read items in order, and then the end of their array. -/
def readJsonItems {α : Type} (read : Partial → Except Refusal α) (closed : Bool) :
    List Partial → Except Refusal (List α)
  | [] => if closed then .ok [] else .error .malformed
  | item :: rest => do
    let value ← read item
    let values ← readJsonItems read closed rest
    .ok (value :: values)

/-- Read members in order into a draft, and then the end of their object. -/
def readJsonMembers {δ : Type} (store : String → Partial → δ → Option (Except Refusal δ))
    (closed : Bool) : List (Partial × Partial) → δ → Except Refusal δ
  | [], draft => if closed then .ok draft else .error .malformed
  | (.text (some key), value) :: rest, draft =>
    match store key value draft with
    | some (.ok draft) => readJsonMembers store closed rest draft
    | some (.error refusal) => .error refusal
    | none =>
      if value.isWhole then readJsonMembers store closed rest draft else .error .malformed
  | _, _ => .error .malformed

end Format

mutual

/-- Read a value by its format. -/
def Format.readJson {α : Type} : Format α → Partial → Except Refusal α
  | .text expected => Format.readJsonText expected
  | .bool => fun
    | .bool value => .ok value
    | value => .error (value.mistyped "a boolean")
  | .phrase read _ => fun value => do
    let content ← Format.readJsonText "a string" value
    (read content).mapError .refused
  | .choice options _ => Format.readJsonChoice options
  | .list item => fun
    | .array items closed => Format.readJsonItems item.readJson closed items
    | value => .error (value.mistyped "a sequence")
  | .optional present => fun
    | .null => .ok none
    | value => (present.readJson value).map some
  | .record name layout build _ => fun
    | .object members closed => do
      let draft ← Format.readJsonMembers layout.storeJson closed members layout.blank
      let fields ← (layout.complete draft).mapError .missing
      .ok (build fields)
    | .array items closed => do
      let fields ← layout.readJsonRow name layout.count 0 closed items
      .ok (build fields)
    | value => .error (value.mistyped ("struct " ++ name))

/-- Store the value of a member in a draft, if the record has a field of that name. -/
def Fields.storeJson {values draft : Type} :
    Fields values draft → String → Partial → draft → Option (Except Refusal draft)
  | .none => fun _ _ _ => none
  | .field name format _ _ others => fun key value (found, draft) =>
    if key = name then
      match found with
      | some _ => some (.error (.repeated name))
      | none => some ((format.readJson value).map fun value => (some value, draft))
    else (others.storeJson key value draft).map fun stored => stored.map fun draft => (found, draft)

/-- Read the fields of a record in order from an array. -/
def Fields.readJsonRow {values draft : Type} :
    Fields values draft → String → Nat → Nat → Bool → List Partial → Except Refusal values
  | .none => fun _ _ _ closed items => if closed && items.isEmpty then .ok () else .error .malformed
  | .field _ format absent _ others => fun record size index closed items =>
    match items with
    | item :: rest => do
      let value ← format.readJson item
      let values ← others.readJsonRow record size (index + 1) closed rest
      .ok (value, values)
    | [] =>
      if closed then
        match absent with
        | some value => (others.readJsonRow record size (index + 1) closed []).map (value, ·)
        | none => .error (.short index record size)
      else .error .malformed

end

mutual

/-- Write a value by its format. -/
def Format.writeJson {α : Type} : Format α → α → Json.Value
  | .text _ => .text
  | .bool => .bool
  | .phrase _ write => fun value => .text (write value)
  | .choice _ name => fun value => .text (name value)
  | .list item => fun values => .array (values.map item.writeJson)
  | .optional present => fun
    | some value => present.writeJson value
    | none => .null
  | .record _ layout _ parts => fun value => .object (layout.writeJson (parts value))

/-- Write the fields of a record as members of an object. -/
def Fields.writeJson {values draft : Type} :
    Fields values draft → values → List (String × Json.Value)
  | .none => fun _ => []
  | .field name format _ hidden others => fun (value, values) =>
    if hidden value then others.writeJson values
    else (name, format.writeJson value) :: others.writeJson values

end

namespace Format

/-- Read a JSON text by a format. -/
def ofJsonText {α : Type} (format : Format α) (text : String) : Except Refusal α := do
  let (tree, only) := Partial.ofText text
  let value ← format.readJson tree
  if only then .ok value else .error .malformed

/-- The JSON text of a value without blanks. -/
def jsonText {α : Type} (format : Format α) (value : α) : String := (format.writeJson value).compact

end Format

end SchemaProjection
