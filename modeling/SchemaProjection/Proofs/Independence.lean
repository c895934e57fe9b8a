import Mathlib.Data.List.Perm.Basic
import SchemaProjection.Proofs.Simulation
import SchemaProjection.Proofs.ViewCompilation

/-!
# Views that do not interfere

The outcome of a view, compiled or with all its failures, is the one it has against the schema
discovered from its own source alone. The schema of a whole compilation holds more types, found
in another order, but no path of the view can come to them (`discoverSchema_agreesOn`). Nor does
the outcome change with the order of the declarations or with what other views project: a schema
is made of the supertypes, the markers and the persistent fields of declarations
(`TypeDecl.schemaPart`), and of the methods of a provider its ancestry is all that counts.
-/
namespace SchemaProjection

/-- A declaration without what no schema is made of: what it projects, its methods, and the
fields that are not stored. -/
def TypeDecl.schemaPart (decl : TypeDecl) : TypeDecl :=
  { decl with
    projection := none
    fields := decl.fields.filter FieldDecl.isPersistent
    methods := [] }

namespace Model

/-- In two models every name has declarations with the same schema part, or none. -/
def SameSchema (left right : Model) : Prop :=
  ∀ name, (left.lookup name).map TypeDecl.schemaPart = (right.lookup name).map TypeDecl.schemaPart

/-- In two models every provider offers the same methods, in the same order. -/
def SameMethods (left right : Model) : Prop :=
  ∀ provider, MethodRequest.offered left provider = MethodRequest.offered right provider

variable {left right : Model}

/-- In models with the same schema, ancestries have the same schema parts. -/
theorem SameSchema.ancestry (same : left.SameSchema right) (name : String) :
    (left.ancestry name).map TypeDecl.schemaPart = (right.ancestry name).map TypeDecl.schemaPart :=
  ancestry_map_congr TypeDecl.schemaPart TypeDecl.schemaPart
    (fun _ _ parts => ⟨(congrArg TypeDecl.name parts :), (congrArg TypeDecl.parent parts :)⟩)
    same name

/-- In models with the same schema, types have the same effective fields under any condition that
only persistent fields satisfy. -/
theorem SameSchema.effectiveFields (same : left.SameSchema right) {holds : FieldDecl → Bool}
    (persistent : ∀ field, holds field = true → field.isPersistent = true) (name : String) :
    left.effectiveFields holds name = right.effectiveFields holds name := by
  have parts (model : Model) :
      (model.ancestry name).flatMap (fun decl => decl.fields.filter holds) =
        ((model.ancestry name).map TypeDecl.schemaPart).flatMap
          fun decl => decl.fields.filter holds := by
    rw [List.flatMap_map]
    refine List.flatMap_congr fun decl _ => ?_
    rw [TypeDecl.schemaPart, List.filter_filter]
    refine List.filter_congr fun field _ => ?_
    cases held : holds field with
    | false => rfl
    | true => simp [persistent field held]
  rw [Model.effectiveFields, Model.effectiveFields, parts left, parts right, same.ancestry]

/-- In models with the same schema, types have the same persistent fields. -/
theorem SameSchema.persistentFields (same : left.SameSchema right) (name : String) :
    left.persistentFields name = right.persistentFields name :=
  same.effectiveFields (fun _ => id) name

/-- In models with the same schema, views have the same mapped fields. -/
theorem SameSchema.mappedFields (same : left.SameSchema right) (name : String) :
    left.mappedFields name = right.mappedFields name := by
  refine same.effectiveFields (fun field mapped => ?_) name
  rw [FieldDecl.isMapped, Bool.and_eq_true] at mapped
  exact mapped.1

end Model

namespace Classifier

variable {left right : Classifier}

/-- With the same schema and the same further scalars, names are of the same kinds. -/
theorem kindOf_congr (same : left.model.SameSchema right.model)
    (scalars : left.extraScalars = right.extraScalars) (name : String) :
    left.kindOf name = right.kindOf name := by
  have parts := same name
  have undeclared : left.undeclaredKind name = right.undeclaredKind name := by
    rw [undeclaredKind, undeclaredKind, isScalarName, isScalarName, scalars]
  rw [kindOf, kindOf]
  cases found : left.model.lookup name <;> cases foundRight : right.model.lookup name <;>
    simp only [found, foundRight, Option.map_none, Option.map_some, reduceCtorEq,
      Option.some.injEq] at parts
  · exact undeclared
  · next decl other =>
    have entity : decl.isEntity = other.isEntity := (congrArg TypeDecl.isEntity parts :)
    have embeddable : decl.isEmbeddable = other.isEmbeddable :=
      (congrArg TypeDecl.isEmbeddable parts :)
    have enumeration : decl.isEnum = other.isEnum := (congrArg TypeDecl.isEnum parts :)
    simp only [entity, embeddable, enumeration, undeclared]

/-- With the same schema, types have a composite identifier alike. -/
theorem hasComposite_congr (same : left.model.SameSchema right.model) (name : String) :
    left.hasComposite name = right.hasComposite name := by
  have parts (model : Model) : (model.ancestry name).any (fun decl => decl.identifierClass.isSome) =
      ((model.ancestry name).map TypeDecl.schemaPart).any
        fun decl => decl.identifierClass.isSome := by
    rw [List.any_map]
    rfl
  rw [hasComposite, hasComposite, parts left.model, parts right.model, same.ancestry]

/-- With the same schema and the same further scalars, types are discovered in step. -/
theorem inStep_of_sameSchema (same : left.model.SameSchema right.model)
    (scalars : left.extraScalars = right.extraScalars) : left.InStep Eq right := by
  have kinds := kindOf_congr same scalars
  apply inStep_of_describe_related
  case roles => exact fun name => by rw [kinds]
  case persistent => exact same.persistentFields
  case composites => exact hasComposite_congr same
  case described => exact fun field => by simp only [describe, kinds]
  case targets => exact fun _ _ equal => congrArg Field.relatedType equal
  case identifiers => exact fun _ _ equal => congrArg Field.isIdentifier equal

end Classifier

/-- Models with the same schema have the same discovered schemas and findings. -/
theorem discoverSchema_congr (settings : CompilerSettings) {left right : Model}
    (same : left.SameSchema right) (roots : List String) :
    discoverSchema settings left roots = discoverSchema settings right roots := by
  obtain ⟨schemas, findings⟩ :=
    discoverSchema_related settings settings (Classifier.inStep_of_sameSchema same rfl) roots
  exact Prod.ext schemas.eq findings

namespace ViewCompiler

/-- Two compilers cannot be told apart by views of one source: the source is registered alike,
its paths lead to the same, and methods have the same names and are offered alike. -/
structure SameFor (left right : ViewCompiler) (source : String) : Prop where
  /-- Conventional names begin alike. -/
  leads : left.methodLead = right.methodLead
  /-- Providers offer the same methods. -/
  methods : left.model.SameMethods right.model
  /-- The source has fields in both registries or in none. -/
  registered : left.registry.contains source = right.registry.contains source
  /-- Paths lead to the same fields or fail with the same faults. -/
  paths : ∀ path, left.resolve source path = right.resolve source path

variable {left right : ViewCompiler}

/-- Where providers offer the same methods, requests are resolved alike. -/
theorem resolve_congr {left right : Model} (same : left.SameMethods right)
    (request : MethodRequest) (providers : List String) :
    request.resolve left providers = request.resolve right providers := by
  have namesakes : request.namesakes left = request.namesakes right := by
    funext provider
    rw [MethodRequest.namesakes, MethodRequest.namesakes, same]
  have matching : request.matching? left = request.matching? right := by
    funext provider
    rw [MethodRequest.matching?, MethodRequest.matching?, namesakes]
  have rejection : request.firstRejection? left = request.firstRejection? right := by
    funext provider
    rw [MethodRequest.firstRejection?, MethodRequest.firstRejection?, namesakes]
  rw [MethodRequest.resolve, MethodRequest.resolve, matching, rejection]

/-- A field of a view of the source compiles alike. -/
theorem SameFor.compileField {projection : Projection}
    (same : left.SameFor right projection.source) (view : String) (field : FieldDecl) :
    left.compileField view projection field = right.compileField view projection field := by
  have requests (computation : Computation) (fields : List Field) :
      left.request view field computation fields = right.request view field computation fields := by
    simp only [request, same.leads]
  have derived (computation : Computation) :
      left.derive view projection field computation =
        right.derive view projection field computation := by
    simp only [derive, dependencies, same.paths, requests, resolve_congr same.methods]
  simp only [ViewCompiler.compileField, same.paths, derived]

/-- A view of the source has the same outcome, if it has the same mapped fields. -/
theorem SameFor.compile {projection : Projection} (same : left.SameFor right projection.source)
    {view : String} (fields : left.model.mappedFields view = right.model.mappedFields view) :
    left.compile view projection = right.compile view projection := by
  have failures : left.fieldFailures view projection = right.fieldFailures view projection := by
    funext field
    rw [fieldFailures, fieldFailures, same.compileField]
  simp only [ViewCompiler.compile, same.registered, same.compileField, fields, failures]

end ViewCompiler

/-- A view of a root has the same outcome against the schemas discovered from any roots among
which its source is. -/
theorem compile_roots_congr (settings : CompilerSettings) (model : Model) (view : String)
    {projection : Projection} {left right : List String} (inLeft : projection.source ∈ left)
    (inRight : projection.source ∈ right) :
    (settings.viewCompiler model (discoverSchema settings model left).1).compile view projection =
      (settings.viewCompiler model (discoverSchema settings model right).1).compile view
        projection := by
  have same : ViewCompiler.SameFor
      (settings.viewCompiler model (discoverSchema settings model left).1)
      (settings.viewCompiler model (discoverSchema settings model right).1) projection.source :=
    ⟨rfl, fun _ => rfl, discoverSchema_contains_congr settings model inLeft inRight,
      discoverSchema_resolve_congr settings model settings.suggestsFields inLeft inRight⟩
  exact same.compile rfl

/-- In models with the same schema, any registry is navigated alike. -/
theorem Model.SameSchema.agreesOn (settings : CompilerSettings) {left right : Model}
    (same : left.SameSchema right) (registry : Registry) (suggests : Bool) :
    Navigation.AgreesOn ⟨settings.classifier left, registry, suggests⟩
      ⟨settings.classifier right, registry, suggests⟩ fun _ => True :=
  ⟨Classifier.kindOf_congr same rfl, rfl, fun _ _ => rfl, fun _ _ _ _ _ _ _ => trivial⟩

/-- A view has the same outcome in models with the same schema and the same methods. -/
theorem compile_model_congr (settings : CompilerSettings) {left right : Model}
    (schema : left.SameSchema right) (methods : left.SameMethods right) (registry : Registry)
    (view : String) (projection : Projection) :
    (settings.viewCompiler left registry).compile view projection =
      (settings.viewCompiler right registry).compile view projection := by
  have same : ViewCompiler.SameFor (settings.viewCompiler left registry)
      (settings.viewCompiler right registry) projection.source :=
    ⟨rfl, methods, rfl, (schema.agreesOn settings registry settings.suggestsFields).resolve trivial⟩
  exact same.compile (schema.mappedFields view)

/-- A declaration without what it projects, unless it is a certain view. -/
def TypeDecl.onlyProjecting (view : String) (decl : TypeDecl) : TypeDecl :=
  if decl.name = view then decl else { decl with projection := none }

/-- Two models declare the same types, in any order and apart from what other views than a
certain one project. -/
def Model.AgreesFor (view : String) (left right : Model) : Prop :=
  (left.types.map (TypeDecl.onlyProjecting view)).Perm
    (right.types.map (TypeDecl.onlyProjecting view))

/-- The outcome of a view against the schema discovered from its source alone. -/
def CompilerSettings.outcomeAlone (settings : CompilerSettings) (model : Model) (view : String)
    (projection : Projection) : Except (List ViewFailure) View :=
  (settings.viewCompiler model (discoverSchema settings model [projection.source]).1).compile view
    projection

namespace TypeDecl

/-- What other views project is not a part of a declaration that counts elsewhere. -/
theorem onlyProjecting_parts (view : String) (decl : TypeDecl) :
    (decl.onlyProjecting view).name = decl.name ∧ (decl.onlyProjecting view).parent = decl.parent ∧
      (decl.onlyProjecting view).methods = decl.methods ∧
      (decl.onlyProjecting view).schemaPart = decl.schemaPart := by
  rw [onlyProjecting]
  split <;> exact ⟨rfl, rfl, rfl, rfl⟩

end TypeDecl

namespace Model

variable {view : String} {left right : Model}

/-- Models that agree for a view find under every name declarations that agree for it. -/
theorem AgreesFor.lookup (agrees : AgreesFor view left right) (name : String) :
    (left.lookup name).map (TypeDecl.onlyProjecting view) =
      (right.lookup name).map (TypeDecl.onlyProjecting view) := by
  have listed (model : Model) (part : TypeDecl) :
      (model.lookup name).map (TypeDecl.onlyProjecting view) = some part ↔
        part ∈ model.types.map (TypeDecl.onlyProjecting view) ∧ part.name = name := by
    simp only [Option.map_eq_some_iff, lookup_eq_some_iff, List.mem_map]
    constructor
    · rintro ⟨decl, ⟨declared, named⟩, rfl⟩
      exact ⟨⟨decl, declared, rfl⟩, (decl.onlyProjecting_parts view).1.trans named⟩
    · rintro ⟨⟨decl, declared, rfl⟩, named⟩
      exact ⟨decl, ⟨declared, (decl.onlyProjecting_parts view).1.symm.trans named⟩, rfl⟩
  apply Option.ext
  intro part
  exact (listed left part).trans
    ((and_congr_left' agrees.mem_iff).trans (listed right part).symm)

/-- Models that agree for a view have the same schema. -/
theorem AgreesFor.sameSchema (agrees : AgreesFor view left right) : left.SameSchema right := by
  intro name
  have parts := congrArg (Option.map TypeDecl.schemaPart) (agrees.lookup name)
  have same : TypeDecl.schemaPart ∘ TypeDecl.onlyProjecting view = TypeDecl.schemaPart :=
    funext fun decl => (decl.onlyProjecting_parts view).2.2.2
  rwa [Option.map_map, Option.map_map, same] at parts

/-- Models that agree for a view offer the same methods. -/
theorem AgreesFor.sameMethods (agrees : AgreesFor view left right) : left.SameMethods right := by
  intro provider
  have determines (first second : TypeDecl)
      (same : first.onlyProjecting view = second.onlyProjecting view) :
      first.name = second.name ∧ first.parent = second.parent := by
    obtain ⟨name, parent, -⟩ := first.onlyProjecting_parts view
    obtain ⟨otherName, otherParent, -⟩ := second.onlyProjecting_parts view
    rw [← name, ← parent, same]
    exact ⟨otherName, otherParent⟩
  have parts (model : Model) : MethodRequest.offered model provider =
      ((model.ancestry provider).map (TypeDecl.onlyProjecting view)).flatMap
        fun decl => decl.methods.map (decl.name, ·) := by
    rw [List.flatMap_map, MethodRequest.offered]
    refine List.flatMap_congr fun decl _ => ?_
    obtain ⟨name, -, methods, -⟩ := decl.onlyProjecting_parts view
    rw [name, methods]
  rw [parts left, parts right, ancestry_map_congr _ _ determines agrees.lookup]

/-- A view is declared alike in models that agree for it. -/
theorem AgreesFor.declared {decl : TypeDecl} (agrees : AgreesFor decl.name left right)
    (declared : decl ∈ left.types) : decl ∈ right.types := by
  have kept : decl.onlyProjecting decl.name = decl := if_pos rfl
  have listed := agrees.mem_iff.mp (List.mem_map_of_mem declared)
  obtain ⟨other, otherDeclared, same⟩ := List.mem_map.mp listed
  have named : other.name = decl.name := by
    rw [← (other.onlyProjecting_parts decl.name).1, same, kept]
  rw [TypeDecl.onlyProjecting, if_pos named, kept] at same
  exact same ▸ otherDeclared

end Model

namespace Compilation

/-- In a compilation a declared view has the outcome that it has alone. -/
theorem compile_eq_outcomeAlone (settings : CompilerSettings) {model : Model} {decl : TypeDecl}
    {projection : Projection} (declared : decl ∈ model.types)
    (projects : decl.projection = some projection) :
    (settings.viewCompiler model (run settings model).schema).compile decl.name projection =
      settings.outcomeAlone model decl.name projection :=
  compile_roots_congr settings model decl.name (source_mem_sources declared projects)
    List.mem_cons_self

/-- Views do not interfere. Against the schema of the whole compilation a declared view has the
outcome, with all failures in order, that it has against the schema discovered from its own
source; its compiled form stands in the result accordingly, and the diagnostics are those of the
schema and then of the outcomes that the views have alone. Neither the order of the declarations
nor what other views project changes the outcome. -/
theorem run_outcome_eq_alone (settings : CompilerSettings) {model : Model} {decl : TypeDecl}
    {projection : Projection} (declared : decl ∈ model.types)
    (projects : decl.projection = some projection) :
    (settings.viewCompiler model (run settings model).schema).compile decl.name projection =
        settings.outcomeAlone model decl.name projection ∧
      (∀ view, (decl.name, view) ∈ (run settings model).views ↔
        settings.outcomeAlone model decl.name projection = .ok view) ∧
      (run settings model).diagnostics.items =
        (discoverSchema settings model model.sources).2.map Finding.diagnostic ++
          model.views.flatMap (fun other => other.projection.elim [] fun projected =>
            ViewCompiler.outcomeReport other.name
              (settings.outcomeAlone model other.name projected)) ∧
      ∀ other, Model.AgreesFor decl.name model other →
        (settings.viewCompiler other (run settings other).schema).compile decl.name projection =
          settings.outcomeAlone model decl.name projection := by
  have alone := compile_eq_outcomeAlone settings declared projects
  refine ⟨alone, fun view => ?_, ?_, fun other agrees => ?_⟩
  · rw [mem_run_views_iff settings declared projects, alone]
  · rw [run_diagnostics]
    refine congrArg _ (List.flatMap_congr fun other listed => ?_)
    obtain ⟨otherDeclared, projected, otherProjects⟩ := Model.mem_views_iff.mp listed
    simp only [ViewCompiler.viewReport, otherProjects, Option.elim_some,
      compile_eq_outcomeAlone settings otherDeclared otherProjects]
  · rw [compile_eq_outcomeAlone settings (agrees.declared declared) projects,
      CompilerSettings.outcomeAlone, CompilerSettings.outcomeAlone,
      discoverSchema_congr settings agrees.sameSchema,
      compile_model_congr settings agrees.sameSchema agrees.sameMethods]

/-- A view of the lines of orders, which are no schema type. -/
def lineView : TypeDecl := { plainType "LineView" with projection := some ⟨"Line", []⟩ }

/-- Orders with a view of their lines before the summary. -/
def ordersWithLines : Model := ⟨[order, orderMethods, lineView, orderSummary], by decide, none⟩

/-- The types of `ordersWithLines` in another order, where the view of lines projects orders. -/
def ordersReordered : Model :=
  ⟨[orderSummary, { lineView with projection := some ⟨"Order", []⟩ }, orderMethods, order],
    by decide, none⟩

/-- The outcome of the summary of an order does not depend on the view of its lines, neither on
where it stands nor on what it projects. -/
theorem orderSummary_outcome_eq_alone :
    let projection : Projection := ⟨"Order", [⟨"OrderMethods", none⟩]⟩
    let alone := CompilerSettings.standard.outcomeAlone ordersWithLines "OrderSummary" projection
    (orderSummary ∈ ordersWithLines.types ∧ orderSummary.projection = some projection ∧
        Model.AgreesFor "OrderSummary" ordersWithLines ordersReordered) ∧
      (CompilerSettings.standard.viewCompiler ordersWithLines
          (run .standard ordersWithLines).schema).compile "OrderSummary" projection = alone ∧
        (CompilerSettings.standard.viewCompiler ordersReordered
          (run .standard ordersReordered).schema).compile "OrderSummary" projection = alone := by
  intro projection alone
  have declared : orderSummary ∈ ordersWithLines.types := by decide
  have agrees : Model.AgreesFor "OrderSummary" ordersWithLines ordersReordered := by
    unfold Model.AgreesFor
    decide
  have outcome := run_outcome_eq_alone .standard declared (show _ = some projection from rfl)
  exact ⟨⟨declared, rfl, agrees⟩, outcome.1, outcome.2.2.2 ordersReordered agrees⟩

end Compilation

end SchemaProjection
