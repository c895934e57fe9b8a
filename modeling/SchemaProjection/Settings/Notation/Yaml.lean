import SchemaProjection.Settings.Value
import SchemaProjection.Yaml.Node

/-!
# Settings in YAML

A node of a YAML text is a setting of the same shape. A key of a mapping is a text or a whole
number; nothing else can name a setting. Of the names of numbers that are not finite only those
without a dot have a meaning.
-/
namespace SchemaProjection.SettingValue

/-- The name that a key stands for. -/
def yamlName? : Yaml.Node → Option String
  | .text content => some content
  | .integer value => some (toString value)
  | _ => none

mutual

/-- The setting of a node. -/
def ofYaml : Yaml.Node → Except NotationFault SettingValue
  | .invalid | .missing => .ok .missing
  | .bool value => .ok (.bool value)
  | .integer value => .ok (.integer value)
  | .real numeral =>
    match Number.doubleOf? numeral.toList with
    | some value => .ok (.float value)
    | none => .error .malformed
  | .text content => .ok (.text content)
  | .sequence items => (ofYamlItems items).map .list
  | .mapping entries => (ofYamlEntries entries).map .group

/-- The settings of items. -/
def ofYamlItems : List Yaml.Node → Except NotationFault (List SettingValue)
  | [] => .ok []
  | item :: rest => do
    let value ← ofYaml item
    let values ← ofYamlItems rest
    .ok (value :: values)

/-- The settings of entries, of which the last one of a name counts. -/
def ofYamlEntries :
    List (Yaml.Node × Yaml.Node) → Except NotationFault (List (String × SettingValue))
  | [] => .ok []
  | (key, node) :: rest =>
    match yamlName? key with
    | none => .error .unnamed
    | some name =>
      if rest.any fun later => yamlName? later.1 == some name then ofYamlEntries rest
      else do
        let value ← ofYaml node
        let entries ← ofYamlEntries rest
        .ok ((name, value) :: entries)

end

/-- The value of a text in YAML. -/
def ofYamlText (text : String) : Except NotationFault SettingValue :=
  match Yaml.Node.ofText? text with
  | some root => ofYaml root
  | none => .error .malformed

end SchemaProjection.SettingValue
