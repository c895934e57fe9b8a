import SchemaProjection.File.Tree
import SchemaProjection.Settings.Notation.Ini
import SchemaProjection.Settings.Notation.Json
import SchemaProjection.Settings.Notation.Json5
import SchemaProjection.Settings.Notation.Ron
import SchemaProjection.Settings.Notation.Toml
import SchemaProjection.Settings.Notation.Yaml

/-!
# Notations of settings

A file of settings is written in one of several notations, which the extension of its name
tells. In each of them the text is a group of settings.
-/
namespace SchemaProjection

/-- A notation of files of settings. -/
inductive Notation where
  /-- TOML. -/
  | toml
  /-- JSON. -/
  | json
  /-- YAML. -/
  | yaml
  /-- INI. -/
  | ini
  /-- RON. -/
  | ron
  /-- JSON5. -/
  | json5
deriving Repr, DecidableEq

namespace Notation

/-- All notations. -/
def all : List Notation := [.toml, .json, .yaml, .ini, .ron, .json5]

/-- The extensions of files in a notation. -/
def extensions : Notation → List String
  | .toml => ["toml"]
  | .json => ["json"]
  | .yaml => ["yaml", "yml"]
  | .ini => ["ini"]
  | .ron => ["ron"]
  | .json5 => ["json5"]

/-- The notation of files with an extension. -/
def ofExtension? (extension : String) : Option Notation :=
  all.find? fun written => written.extensions.contains extension

/-- The notation of the file at a path. -/
def ofPath? (path : String) : Option Notation :=
  ((FileTree.parts path).getLast?.bind extension?).bind ofExtension?

/-- The value that a reader finds in a text. -/
def found (read : String → Option SettingValue) (text : String) :
    Except NotationFault SettingValue :=
  match read text with
  | some value => .ok value
  | none => .error .malformed

/-- The value of a text. -/
def value : Notation → String → Except NotationFault SettingValue
  | .toml => found SettingValue.ofTomlText?
  | .json => found SettingValue.ofJsonText?
  | .yaml => SettingValue.ofYamlText
  | .ini => found SettingValue.ofIniText?
  | .ron => found SettingValue.ofRonText?
  | .json5 => found SettingValue.ofJson5Text?

/-- The settings of a text. -/
def settings (written : Notation) (text : String) :
    Except NotationFault (List (String × SettingValue)) := do
  match ← written.value text with
  | .group entries => .ok entries
  | _ => .error .malformed

end Notation

end SchemaProjection
