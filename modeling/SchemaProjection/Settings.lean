import SchemaProjection.Compilation
import SchemaProjection.Model.Bundle

/-!
# Settings

The settings of a compilation, of the documents it reads, and of what it writes. Every setting
has a value when none is given.
-/
namespace SchemaProjection

/-- `DeclarationsConfig` — where declarations are found. -/
structure DeclarationSettings where
  /-- The directory of the documents. -/
  path : String
  /-- Which of its files are read. -/
  rules : LoadRules
deriving Repr, DecidableEq

/-- `DeclarationsConfig::default` — the documents of the directory `declarations`. -/
def DeclarationSettings.standard : DeclarationSettings := ⟨"declarations", .standard⟩

/-- `OutputFormat` — how a result is laid out. -/
inductive Layout where
  /-- An item to a line. -/
  | pretty
  /-- Without blanks. -/
  | compact
deriving Repr, DecidableEq

/-- The name of a layout. -/
def Layout.name : Layout → String
  | .pretty => "pretty"
  | .compact => "compact"

/-- `OutputConfig` — what is written of a result, and how. -/
structure OutputSettings where
  /-- The layout. -/
  layout : Layout
  /-- Whether the schema is written. -/
  includesSchema : Bool
deriving Repr, DecidableEq

/-- `OutputConfig::default` — the whole result, an item to a line. -/
def OutputSettings.standard : OutputSettings := ⟨.pretty, true⟩

/-- `ProjectionConfig` — all settings. -/
structure Settings where
  /-- The settings of the compilation. -/
  compiler : CompilerSettings
  /-- Where declarations are found. -/
  declarations : DeclarationSettings
  /-- What is written. -/
  output : OutputSettings
deriving Repr, DecidableEq

namespace Settings

/-- `ProjectionConfig::default` — the settings when none are given. -/
def standard : Settings := ⟨.standard, .standard, .standard⟩

instance : Inhabited Settings := ⟨standard⟩

end Settings

/-- The format of the settings of a compilation. -/
def CompilerSettings.format : Format CompilerSettings :=
  .record "CompilerConfig"
    (.defaulted "method_prefix" .string standard.methodLead <|
      .defaulted "extra_scalar_types" (.list .string) standard.extraScalars <|
      .defaulted "suggest_fields" .bool standard.suggestsFields .none)
    (fun (methodLead, extraScalars, suggestsFields, ()) =>
      ⟨methodLead, extraScalars, suggestsFields⟩)
    (fun settings =>
      (settings.methodLead, settings.extraScalars, settings.suggestsFields, ()))

/-- The format of where declarations are found. -/
def DeclarationSettings.format : Format DeclarationSettings :=
  .record "DeclarationsConfig"
    (.defaulted "path" (.text "path string") standard.path <|
      .defaulted "skip_prefixes" (.list .string) standard.rules.skipped <|
      .defaulted "include_prefixes" (.list .string) standard.rules.included .none)
    (fun (path, skipped, included, ()) => ⟨path, ⟨skipped, included⟩⟩)
    (fun settings => (settings.path, settings.rules.skipped, settings.rules.included, ()))

/-- The format of layouts. -/
def Layout.format : Format Layout :=
  .choice ([.pretty, .compact].map fun layout => (layout.name, layout)) Layout.name

/-- The format of what is written. -/
def OutputSettings.format : Format OutputSettings :=
  .record "OutputConfig"
    (.defaulted "format" Layout.format standard.layout <|
      .defaulted "include_schema" .bool standard.includesSchema .none)
    (fun (layout, includesSchema, ()) => ⟨layout, includesSchema⟩)
    (fun settings => (settings.layout, settings.includesSchema, ()))

/-- The format of all settings. -/
def Settings.format : Format Settings :=
  .record "ProjectionConfig"
    (.defaulted "compiler" CompilerSettings.format .standard <|
      .defaulted "declarations" DeclarationSettings.format .standard <|
      .defaulted "output" OutputSettings.format .standard .none)
    (fun (compiler, declarations, output, ()) => ⟨compiler, declarations, output⟩)
    (fun settings => (settings.compiler, settings.declarations, settings.output, ()))

end SchemaProjection
