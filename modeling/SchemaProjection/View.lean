import SchemaProjection.Method
import SchemaProjection.Schema.Path

/-!
# Views

A view projects a schema type. Each of its fields is copied from a path of that type, by default
the one that has its own name, or is computed by a method of a provider from the fields that some
paths lead to. The fields of a view are compiled apart from each other, and a view is compiled
when all of them are; otherwise every fault of every field is reported.

A mapping is a `DirectMapping`, and a derivation is a `ComputedField`; the compiled views in order
are the `ProjectionRegistry`.
-/
namespace SchemaProjection

/-- `DirectMapping` — a field of a view that is copied from a path. -/
structure Mapping where
  /-- The field of the view. -/
  target : String
  /-- The path from the source. -/
  path : String
  /-- The type that the path leads to. -/
  type : String
  /-- The elements, if the path leads to a collection. -/
  collection : Option Collection
deriving Repr, DecidableEq

/-- `ComputedField` — a field of a view that is computed. -/
structure Derivation where
  /-- The field of the view. -/
  target : String
  /-- The paths it depends on. -/
  dependencies : List String
  /-- One reducer for each dependency with many values. -/
  reducers : List String
  /-- The method as declared. -/
  reference : Option MethodReference
  /-- The method that was found. -/
  method : Signature
deriving Repr, DecidableEq

/-- `ProjectionMetadata` — a compiled view. -/
structure View where
  /-- The schema type it projects. -/
  source : String
  /-- The copied fields in order. -/
  mappings : List Mapping
  /-- The computed fields in order. -/
  derivations : List Derivation
  /-- The providers in order of precedence. -/
  providers : List Provider
deriving Repr, DecidableEq

namespace View

/-- `ProjectionMetadata::direct_mapping` — the copied field of a name. -/
def mapping? (view : View) (field : String) : Option Mapping :=
  view.mappings.find? (·.target == field)

/-- `ProjectionMetadata::computed_field` — the computed field of a name. -/
def derivation? (view : View) (field : String) : Option Derivation :=
  view.derivations.find? (·.target == field)

end View

/-- `ProjectionError` — why a view or a field of a view has no meaning. -/
inductive ViewFault where
  /-- The source has no fields in the registry. -/
  | unresolvedSource (view source : String)
  /-- A computed field depends on nothing. -/
  | noDependencies (view field : String)
  /-- A computed field has not one reducer for each dependency with many values. -/
  | reducerCount (view field : String) (required found : Nat)
  /-- A field is computed and copied. -/
  | computedAndMapped (view field : String)
  /-- A path leads nowhere. -/
  | path (fault : PathFault)
  /-- A method is not found. -/
  | method (fault : MethodFault)
deriving Repr

namespace ViewFault

/-- What is said of a fault. -/
def remark : ViewFault → Remark
  | .unresolvedSource view source =>
    ⟨.unresolvedType, s!"View {view} maps source type {source}, which has no schema entry", []⟩
  | .noDependencies view field =>
    ⟨.noDependencies, s!"Computed field {view}.{field} declares no dependencies", []⟩
  | .reducerCount view field required found =>
    ⟨.reducerCount,
      s!"Computed field {view}.{field} has {required} collection-valued dependencies " ++
        s!"but declares {found} reducers: required {required}, found {found}", []⟩
  | .computedAndMapped view field =>
    ⟨.computedAndMapped,
      s!"Field {view}.{field} is declared both computed and mapped from a path", []⟩
  | .path fault => fault.remark
  | .method fault => fault.remark

end ViewFault

/-- `ProjectionFailure` — a fault and the view or field that it concerns. -/
structure ViewFailure where
  /-- The name of the view, or the names of the view and the field. -/
  element : String
  /-- The fault. -/
  fault : ViewFault
deriving Repr

namespace ViewFailure

/-- A fault of a field. -/
def ofField (view field : String) (fault : ViewFault) : ViewFailure :=
  ⟨view ++ "." ++ field, fault⟩

/-- A failure as it is reported. -/
def diagnostic (failure : ViewFailure) : Diagnostic := .about failure.element failure.fault.remark

end ViewFailure

/-- A compiled field of a view. -/
inductive ViewField where
  /-- A copied field. -/
  | copied (mapping : Mapping)
  /-- A computed field. -/
  | computed (derivation : Derivation)
deriving Repr, DecidableEq

namespace ViewField

/-- The field as a copied one. -/
def mapping? : ViewField → Option Mapping
  | .copied mapping => some mapping
  | .computed _ => none

/-- The field as a computed one. -/
def derivation? : ViewField → Option Derivation
  | .copied _ => none
  | .computed derivation => some derivation

end ViewField

/-- `parameter_names` — names for the parameters of a method that depends on paths: the last
segment, or the whole path when another path ends in the same segment. -/
def parameterNames (paths : List String) : List String :=
  paths.map fun path =>
    let segment := Text.lastSegment path
    if (paths.filter fun other => Text.lastSegment other == segment).length > 1 then
      Text.joined "_" (Text.segments path)
    else segment

/-- `ProjectionCompiler` — a schema against which views are compiled. -/
structure ViewCompiler extends Navigation where
  /-- `method_prefix`: what conventional names of methods begin with. -/
  methodLead : String

namespace ViewCompiler

/-- The declared types. -/
def model (compiler : ViewCompiler) : Model := compiler.classifier.model

/-- The values of all results, or the errors of all that have none. -/
def collected {α : Type} : List (Except PathFault α) → Except (List PathFault) (List α)
  | [] => .ok []
  | result :: rest =>
    match result, collected rest with
    | .ok value, .ok values => .ok (value :: values)
    | .ok _, .error faults => .error faults
    | .error fault, .ok _ => .error [fault]
    | .error fault, .error faults => .error (fault :: faults)

/-- The loop of `ProjectionCompiler::compile_computed` — the fields that the dependencies of a
computed field lead to, or all paths that fail. -/
def dependencies (compiler : ViewCompiler) (source : String) (paths : List String) :
    Except (List PathFault) (List Field) :=
  collected (paths.map (compiler.resolve source))

/-- The request that `ProjectionCompiler::compile_computed` makes — the method that a computed field
asks for. -/
def request (compiler : ViewCompiler) (view : String) (field : FieldDecl)
    (computation : Computation) (fields : List Field) : MethodRequest where
  view := view
  field := field.name
  name := match field.method with
    | some reference => reference.name
    | none => conventionalName compiler.methodLead field.name
  returns := field.type
  parameters := (fields.map Field.declaredType).zip (parameterNames computation.dependencies)

/-- The candidates of `ProjectionCompiler::compile_computed` — the providers of a computed field:
the one it names, or those of the view. -/
def candidates (projection : Projection) (field : FieldDecl) : List String :=
  match field.method.bind MethodReference.type with
  | some provider => [provider]
  | none => projection.providers.map Provider.type

/-- `ProjectionCompiler::compile_computed` — compile a computed field. A path that fails leaves the
method unknown; a wrong number of reducers does not. -/
def derive (compiler : ViewCompiler) (view : String) (projection : Projection)
    (field : FieldDecl) (computation : Computation) : Except (List ViewFault) Derivation :=
  if computation.dependencies.isEmpty then .error [.noDependencies view field.name]
  else
    match compiler.dependencies projection.source computation.dependencies with
    | .error faults => .error (faults.map .path)
    | .ok fields =>
      let required := (fields.filter Field.isCollection).length
      let found := computation.reducers.length
      let reducers : List ViewFault :=
        if found = required then [] else [.reducerCount view field.name required found]
      match (compiler.request view field computation fields).resolve compiler.model
          (candidates projection field) with
      | .error fault => .error (reducers ++ [.method fault])
      | .ok method =>
        if reducers.isEmpty then
          .ok ⟨field.name, computation.dependencies, computation.reducers, field.method, method⟩
        else .error reducers

/-- The body of the loop in `ProjectionCompiler::compile` — compile a field of a view. -/
def compileField (compiler : ViewCompiler) (view : String) (projection : Projection)
    (field : FieldDecl) : Except (List ViewFault) ViewField :=
  match field.path, field.computed with
  | some _, some _ => .error [.computedAndMapped view field.name]
  | none, some computation =>
    (compiler.derive view projection field computation).map .computed
  | path, none =>
    let path := path.getD field.name
    match compiler.resolve projection.source path with
    | .ok found => .ok (.copied ⟨field.name, path, found.relatedType, found.collection⟩)
    | .error fault => .error [.path fault]

/-- The failures of a field of a view. -/
def fieldFailures (compiler : ViewCompiler) (view : String) (projection : Projection)
    (field : FieldDecl) : List ViewFailure :=
  match compiler.compileField view projection field with
  | .ok _ => []
  | .error faults => faults.map (.ofField view field.name)

/-- `ProjectionCompiler::compile` — compile a view, or tell all its failures. -/
def compile (compiler : ViewCompiler) (view : String) (projection : Projection) :
    Except (List ViewFailure) View :=
  if !compiler.registry.contains projection.source then
    .error [⟨view, .unresolvedSource view projection.source⟩]
  else
    let fields := compiler.model.mappedFields view
    let failures := fields.flatMap (compiler.fieldFailures view projection)
    if failures.isEmpty then
      let compiled :=
        fields.filterMap fun field => (compiler.compileField view projection field).toOption
      .ok ⟨projection.source, compiled.filterMap ViewField.mapping?,
        compiled.filterMap ViewField.derivation?, projection.providers⟩
    else .error failures

end ViewCompiler

/-- The views that were compiled and what is reported of the others. -/
structure ViewResults where
  /-- The compiled views in the order in which they were declared. -/
  views : List (String × View)
  /-- The failures of each view that was not compiled, and that it is left out. -/
  diagnostics : List Diagnostic

/-- `DiagnosticCode::ViewDropped` — the note on a view that is left out, with the number of its
failures. -/
def droppedView (view : String) (failures : List ViewFailure) : Diagnostic :=
  let count := failures.length
  .about view
    ⟨.viewDropped, s!"View {view} excluded from output: {count} unresolved field(s)", []⟩

namespace ViewCompiler

/-- The loop of `ProjectionCompiler::compile_all` — compile views in order. -/
def compileEach (compiler : ViewCompiler) : List TypeDecl → ViewResults
  | [] => ⟨[], []⟩
  | decl :: rest =>
    let results := compiler.compileEach rest
    match decl.projection with
    | none => results
    | some projection =>
      match compiler.compile decl.name projection with
      | .ok view => { results with views := (decl.name, view) :: results.views }
      | .error failures =>
        { results with
          diagnostics := failures.map ViewFailure.diagnostic ++
            droppedView decl.name failures :: results.diagnostics }

/-- `ProjectionCompiler::compile_all` — compile all views of the model. -/
def compileAll (compiler : ViewCompiler) : ViewResults :=
  compiler.compileEach compiler.model.views

end ViewCompiler

end SchemaProjection
