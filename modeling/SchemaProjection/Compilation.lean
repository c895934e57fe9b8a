import SchemaProjection.Diagnostic.Format
import SchemaProjection.Schema.Discovery
import SchemaProjection.View.Format

/-!
# Compilations

A compilation discovers the schema from the sources of all views in order, and then compiles the
views against it. What is reported of the schema comes before what is reported of the views. The
settings and the model are those of a `CompilationUnit`.
-/
namespace SchemaProjection

/-- `CompilerConfig` — the settings of a compilation. -/
structure CompilerSettings where
  /-- `method_prefix`: what conventional names of methods begin with. -/
  methodLead : String
  /-- `extra_scalar_types`: names that count as scalars. -/
  extraScalars : List String
  /-- `suggest_fields`: whether a field is suggested in place of an unknown one. -/
  suggestsFields : Bool
deriving Repr, DecidableEq

namespace CompilerSettings

/-- `DEFAULT_METHOD_PREFIX` — what conventional names of methods begin with, unless it is set. -/
def defaultLead : String := "get"

/-- `CompilerConfig::default` — the settings of a compilation for which none are given. -/
def standard : CompilerSettings := ⟨defaultLead, [], true⟩

instance : Inhabited CompilerSettings := ⟨standard⟩

/-- `CompilationUnit::classifier` — the kinds of names in a model under the settings. -/
def classifier (settings : CompilerSettings) (model : Model) : Classifier :=
  ⟨model, settings.extraScalars⟩

/-- `ProjectionCompiler::new` as `CompilationUnit::run` calls it — the compiler of views under the
settings. -/
def viewCompiler (settings : CompilerSettings) (model : Model) (registry : Registry) :
    ViewCompiler where
  classifier := settings.classifier model
  registry := registry
  suggests := settings.suggestsFields
  methodLead := settings.methodLead

end CompilerSettings

/-- `CompilationUnit::extract_with` — the schema discovered from roots and the findings on it in
order. -/
def discoverSchema (settings : CompilerSettings) (model : Model) (roots : List String) :
    Registry × List Finding :=
  let (discovery, findings) := (settings.classifier model).discoverAll .empty roots
  (discovery.registry, findings)

/-- The roots that `CompilationUnit::run` begins with — the sources of the views in order. -/
def Model.sources (model : Model) : List String :=
  (model.views.filterMap TypeDecl.projection).map Projection.source

/-- `CompilationOutput` — what a compilation results in. -/
structure Compilation where
  /-- The schema types that the sources of the views lead to. -/
  schema : Registry
  /-- The compiled views in the order in which they were declared. -/
  views : List (String × View)
  /-- All that was reported. -/
  diagnostics : Diagnostics
  /-- The checksum of the declarations. -/
  checksum : Option Checksum

namespace Compilation

/-- `CompilationUnit::run` — compile all views of a model. -/
def run (settings : CompilerSettings) (model : Model) : Compilation :=
  let (schema, findings) := discoverSchema settings model model.sources
  let results := (settings.viewCompiler model schema).compileAll
  { schema := schema
    views := results.views
    diagnostics := ⟨findings.map Finding.diagnostic ++ results.diagnostics⟩
    checksum := none }

/-- `CompilationOutput::has_errors` — whether something declared has no meaning. -/
def hasErrors (compilation : Compilation) : Bool := compilation.diagnostics.hasErrors

/-- `CompilationOutput::with_checksum` — a compilation with the checksum of its declarations. -/
def withChecksum (compilation : Compilation) (checksum : Option Checksum) : Compilation :=
  { compilation with checksum }

end Compilation

namespace Table

/-- A table as an object. -/
def json {α : Type} (write : α → Json.Value) (table : Table α) : Json.Value :=
  .object (table.entries.map fun (name, value) => (name, write value))

end Table

/-- The schema types and their fields as objects. -/
def Registry.json (registry : Registry) : Json.Value :=
  let fields := Table.json (Table.json Field.format.writeJson)
  .object [("entities", fields registry.entities), ("embeddables", fields registry.embeddables)]

/-- A compilation as an object; a checksum is left out when there is none. -/
def Compilation.json (compilation : Compilation) : Json.Value :=
  .object ([("schema", compilation.schema.json),
    ("projections", .object (compilation.views.map fun (name, view) =>
      (name, View.format.writeJson view))),
    ("diagnostics", Diagnostics.format.writeJson compilation.diagnostics)] ++
    (compilation.checksum.map fun checksum => ("checksum", .text checksum.text)).toList)

end SchemaProjection
