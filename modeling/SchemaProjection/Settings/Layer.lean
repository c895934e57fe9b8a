import SchemaProjection.Format.Settings
import SchemaProjection.Settings
import SchemaProjection.Settings.Notation

/-!
# Layers of settings

Settings are taken from files of fixed names, then from a file that is asked for, and then from
the environment. Each layer overrides those before it, setting by setting. The extension of a
file tells its notation, and may be left out of a name. A file of a fixed name may be missing;
the one that is asked for may not. The first layer that has no meaning is the fault of all. A layer
is a source that `ProjectionConfig::load_from` adds to its builder.
-/
namespace SchemaProjection

/-- Why there are no settings. -/
inductive SettingsFault where
  /-- The file that is asked for is missing or cannot be read. -/
  | unavailable (path : String)
  /-- A file is not of its notation, or is no group of settings. -/
  | malformed (path : String)
  /-- A file has a value whose name is neither a text nor a whole number. -/
  | unnamed (path : String)
  /-- The name of a setting has an index that has no place in its list. -/
  | unplaced (name : String)
  /-- A setting has no meaning. -/
  | setting (fault : SettingFault)
deriving Repr, DecidableEq

/-- The message of a fault. -/
def SettingsFault.message : SettingsFault → String
  | .unavailable path => s!"configuration file {path} not found or not readable"
  | .malformed path => s!"configuration file {path} holds no settings"
  | .unnamed path => s!"configuration file {path} has a value without a name"
  | .unplaced name => s!"the setting {name} has no place in its list"
  | .setting (.mistyped expected) => s!"a setting is not {expected}"
  | .setting .misshapen => "a setting has the wrong shape"

/-- What settings are taken from besides files. -/
structure Surroundings where
  /-- What stands at a path. -/
  at? : String → Option FileTree
  /-- The directory of the user's own settings, if there is one. -/
  home : Option String
  /-- The variables of the environment. -/
  environment : List (String × String)

namespace Surroundings

/-- `config_locations` — the fixed names of files in the working directory. -/
def fixedFiles : List String :=
  ["projections.toml", ".projections.toml", "config/projections.toml"]

/-- A path without the empty parts and the dots at its end. -/
def trimmed (path : String) : String :=
  let isIdle (part : String) : Bool := part = "" || part = "."
  Text.joined "/" ((FileTree.parts path).reverse.dropWhile isIdle).reverse

/-- The paths at which a file of settings is looked for: its own and, if it ends in a name, the
ones with the extension of a notation added. -/
def candidates (path : String) : List String :=
  match (FileTree.parts (trimmed path)).getLast? with
  | none | some "" | some ".." => [path]
  | some _ =>
    path :: (Notation.all.flatMap Notation.extensions).map fun extension =>
      trimmed path ++ "." ++ extension

/-- The text of the first file among paths with its notation, if it has one and can be read. -/
def firstFile (surroundings : Surroundings) : List String → Option (Notation × String)
  | [] => none
  | path :: rest =>
    match surroundings.at? path with
    | some (.file content) => do return (← Notation.ofPath? path, ← Text.decoded? content)
    | _ => surroundings.firstFile rest

/-- The settings of a file of a path. -/
def fileLayer (surroundings : Surroundings) (isRequired : Bool) (path : String) :
    Except SettingsFault (List (String × SettingValue)) :=
  match surroundings.firstFile (candidates path) with
  | none => if isRequired then .error (.unavailable path) else .ok []
  | some (written, content) =>
    (written.settings content).mapError fun
      | .malformed => .malformed path
      | .unnamed => .unnamed path

/-- The file of the user's own settings in their directory. -/
def userFile (home : String) : String := pathBelow home "projections/projections.toml"

/-- All files that may hold settings, and whether each must be there. -/
def files (surroundings : Surroundings) (asked : Option String) : List (Bool × String) :=
  let user := (surroundings.home.map userFile).filter fun path => (surroundings.at? path).isSome
  fixedFiles.map (false, ·) ++ user.toList.map (false, ·) ++ asked.toList.map (true, ·)

/-- All paths at which settings are looked for. -/
def settingsPaths (home asked : Option String) : List String :=
  (fixedFiles ++ (home.map userFile).toList ++ asked.toList).flatMap candidates

/-- What the names of variables begin with, in small letters. -/
def variableLead : List Char := "projections__".toList

/-- A name with a dot for every two underscores. -/
def dotted : List Char → List Char
  | '_' :: '_' :: rest => '.' :: dotted rest
  | c :: rest => c :: dotted rest
  | [] => []

/-- The value of a variable: a truth value, a number, or a text. -/
def variableValue (content : String) : SettingValue :=
  let text := content.toList
  if SettingValue.smallName content = "true" then .bool true
  else if SettingValue.smallName content = "false" then .bool false
  else match Number.wordOf? text, Number.doubleOf? text with
    | some value, _ => .integer value
    | none, some value => .float value
    | none, none => .text content

/-- The settings of the environment. -/
def environmentLayer (surroundings : Surroundings) : List (String × SettingValue) :=
  surroundings.environment.filterMap fun (name, content) =>
    let name := (SettingValue.smallName name).toList
    if variableLead.isPrefixOf name then
      some (String.ofList (dotted (name.drop variableLead.length)), variableValue content)
    else none

/-- Put the settings of a layer over those below. -/
def overlay (below : SettingValue) (layer : List (String × SettingValue)) :
    Except SettingsFault SettingValue :=
  (below.overlay layer).mapError .unplaced

/-- Put the settings of files over those below, in order. -/
def overlayFiles (surroundings : Surroundings) (below : SettingValue) :
    List (Bool × String) → Except SettingsFault SettingValue
  | [] => .ok below
  | (isRequired, path) :: rest => do
    let layer ← surroundings.fileLayer isRequired path
    surroundings.overlayFiles (← overlay below layer) rest

/-- `ProjectionConfig::load_from` — the settings of all layers. -/
def settings (surroundings : Surroundings) (asked : Option String) :
    Except SettingsFault Settings := do
  let files ← surroundings.overlayFiles (.group []) (surroundings.files asked)
  let all ← overlay files surroundings.environmentLayer
  (Settings.format.readSetting all).mapError .setting

end Surroundings

end SchemaProjection
