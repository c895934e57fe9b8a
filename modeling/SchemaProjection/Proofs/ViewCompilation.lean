import Mathlib.Data.List.Forall2
import SchemaProjection.Proofs.Inheritance
import SchemaProjection.Proofs.MethodMatch
import SchemaProjection.Proofs.Navigation

/-!
# Which views are compiled

A field of a view is well-formed in one of two ways: it is copied from a path that leads to a
field, or it is computed by a method that fits the fields its dependencies lead to
(`WellFormed`). The compiler of one field succeeds exactly on these, with the mapping or the
derivation that the declaration describes; a view is compiled exactly when its source is
registered and all its effective mapped fields are well-formed, and then holds what they
describe, in their order (`Describes`). Over a whole compilation the source of every view is a
root of the discovered schema, so being registered means being a schema type.
-/
namespace SchemaProjection

namespace ViewCompiler

/-- What the method of a computed field is called: as the field says, or else by the
convention. -/
def requiredName (compiler : ViewCompiler) (field : FieldDecl) : String :=
  (field.method.map MethodReference.name).getD
    (conventionalName compiler.methodLead field.name)

/-- Each path leads from the source to the field at its place. -/
def Leads (compiler : ViewCompiler) (source : String) (paths : List String)
    (fields : List Field) : Prop :=
  List.Forall₂ (fun path field => compiler.resolve source path = .ok field) paths fields

/-- A field is not computed, and a mapping copies it from what its path, or its own name where it
has no path, leads to. -/
def Copies (compiler : ViewCompiler) (source : String) (field : FieldDecl) (mapping : Mapping) :
    Prop :=
  field.computed = none ∧
    ∃ found, compiler.resolve source (field.path.getD field.name) = .ok found ∧
      mapping = ⟨field.name, field.path.getD field.name, found.relatedType, found.collection⟩

/-- A field is computed and has no path, its dependencies lead to fields, and it has one reducer
for each of these that is a collection. -/
structure DependsOn (compiler : ViewCompiler) (source : String) (field : FieldDecl)
    (computation : Computation) (fields : List Field) : Prop where
  /-- The field is computed. -/
  computed : field.computed = some computation
  /-- The field is not copied. -/
  unmapped : field.path = none
  /-- There are dependencies. -/
  nonempty : computation.dependencies ≠ []
  /-- All dependencies lead to fields. -/
  leads : compiler.Leads source computation.dependencies fields
  /-- There are as many reducers as collections. -/
  reduced : computation.reducers.length = (fields.filter Field.isCollection).length

/-- A derivation computes a field from its dependencies by the first method that fits. -/
def Derives (compiler : ViewCompiler) (view : String) (projection : Projection)
    (field : FieldDecl) (derivation : Derivation) : Prop :=
  ∃ computation fields, compiler.DependsOn projection.source field computation fields ∧
    ∃ method, (compiler.request view field computation fields).FirstMatch compiler.model
        (candidates projection field) method ∧
      derivation =
        ⟨field.name, computation.dependencies, computation.reducers, field.method, method⟩

/-- A field can be copied, or computed: some candidate inherits or declares a method of the
required name whose result is of the type of the field and whose parameters are exactly of the
declared types of the dependencies, in order. -/
def WellFormed (compiler : ViewCompiler) (projection : Projection) (field : FieldDecl) : Prop :=
  (field.computed = none ∧
    ∃ found, compiler.resolve projection.source (field.path.getD field.name) = .ok found) ∨
  ∃ computation fields, compiler.DependsOn projection.source field computation fields ∧
    ∃ candidate ∈ candidates projection field,
      ∃ decl ∈ compiler.model.ancestry candidate, ∃ method ∈ decl.methods,
        method.name = compiler.requiredName field ∧ method.returns = field.type ∧
          method.params.map ParamDecl.type = fields.map Field.declaredType

/-- A compiled view holds the mappings and the derivations of some fields, in their order. -/
structure Describes (compiler : ViewCompiler) (name : String) (projection : Projection)
    (fields : List FieldDecl) (view : View) : Prop where
  /-- The source is the declared one. -/
  source : view.source = projection.source
  /-- Every field that is not computed is copied. -/
  mappings : List.Forall₂ (compiler.Copies projection.source)
    (fields.filter fun field => field.computed.isNone) view.mappings
  /-- Every other field is computed. -/
  derivations : List.Forall₂ (compiler.Derives name projection)
    (fields.filter fun field => field.computed.isSome) view.derivations
  /-- The providers are the declared ones. -/
  providers : view.providers = projection.providers

variable {compiler : ViewCompiler}

/-- All results have values exactly when none has an error. -/
theorem collected_eq_ok_iff {α : Type} {results : List (Except PathFault α)} {values : List α} :
    collected results = .ok values ↔
      List.Forall₂ (fun result value => result = .ok value) results values := by
  induction results generalizing values with
  | nil => cases values <;> simp [collected]
  | cons result rest ih =>
    cases values with
    | nil => cases result <;> cases later : collected rest <;> simp [collected, later]
    | cons value values =>
      rw [List.forall₂_cons, ← ih]
      cases result <;> cases later : collected rest <;> simp [collected, later]

/-- Errors are only collected where there are some. -/
theorem collected_ne_error_nil {α : Type} (results : List (Except PathFault α)) :
    collected results ≠ .error [] := by
  induction results with
  | nil => simp [collected]
  | cons result rest ih =>
    cases result <;> cases later : collected rest <;> simp [collected, later]
    exact fun empty => ih (later.trans (congrArg _ empty))

/-- The dependencies lead to fields exactly when every path does. -/
theorem dependencies_eq_ok_iff {source : String} {paths : List String} {fields : List Field} :
    compiler.dependencies source paths = .ok fields ↔ compiler.Leads source paths fields := by
  rw [dependencies, collected_eq_ok_iff, List.forall₂_map_left_iff, Leads]

/-- The requested method has the required name. -/
theorem request_name (view : String) (field : FieldDecl) (computation : Computation)
    (fields : List Field) :
    (compiler.request view field computation fields).name = compiler.requiredName field := by
  rw [request, requiredName]
  cases field.method <;> rfl

/-- The requested parameters are of the declared types of the dependencies. -/
theorem request_parameters (view : String) (field : FieldDecl) {computation : Computation}
    {fields : List Field} (counted : fields.length = computation.dependencies.length) :
    (compiler.request view field computation fields).parameters.map Prod.fst =
      fields.map Field.declaredType := by
  change ((fields.map Field.declaredType).zip
    (parameterNames computation.dependencies)).map Prod.fst = _
  exact List.map_fst_zip (by simp [parameterNames, counted])

/-- A computed field compiles exactly when it has dependencies, all of them lead to fields, the
reducers are as many as the collections among these, and the method is found. -/
theorem derive_eq_ok_iff {view : String} {projection : Projection} {field : FieldDecl}
    {computation : Computation} {derivation : Derivation} :
    compiler.derive view projection field computation = .ok derivation ↔
      computation.dependencies ≠ [] ∧
        ∃ fields, compiler.Leads projection.source computation.dependencies fields ∧
          computation.reducers.length = (fields.filter Field.isCollection).length ∧
          ∃ method, (compiler.request view field computation fields).FirstMatch compiler.model
              (candidates projection field) method ∧
            derivation = ⟨field.name, computation.dependencies, computation.reducers,
              field.method, method⟩ := by
  simp only [← dependencies_eq_ok_iff, ← MethodRequest.resolve_eq_ok_iff]
  rw [derive]
  by_cases empty : computation.dependencies = []
  · simp [empty]
  · rw [if_neg (by simpa using empty)]
    cases compiler.dependencies projection.source computation.dependencies with
    | error faults => simp
    | ok fields =>
      by_cases reduced : computation.reducers.length = (fields.filter Field.isCollection).length <;>
        cases resolved : (compiler.request view field computation fields).resolve compiler.model
          (candidates projection field) <;>
        simp [empty, reduced, resolved, @eq_comm _ derivation]

/-- A computed field that does not compile has a fault. -/
theorem derive_ne_error_nil (compiler : ViewCompiler) (view : String) (projection : Projection)
    (field : FieldDecl) (computation : Computation) :
    compiler.derive view projection field computation ≠ .error [] := by
  rw [derive]
  split
  next => simp
  next =>
    cases found : compiler.dependencies projection.source computation.dependencies with
    | error faults =>
      have faulty : faults ≠ [] := fun faultless =>
        collected_ne_error_nil _ (faultless ▸ found)
      simpa using faulty
    | ok fields =>
      dsimp only
      cases (compiler.request view field computation fields).resolve compiler.model
        (candidates projection field) with
      | error fault => simp
      | ok method =>
        by_cases reduced :
            computation.reducers.length = (fields.filter Field.isCollection).length <;>
          simp [reduced]

/-- A field that is not computed is copied from its path or from its own name. -/
theorem compileField_copied {view : String} {projection : Projection} {field : FieldDecl}
    (plain : field.computed = none) :
    compiler.compileField view projection field =
      match compiler.resolve projection.source (field.path.getD field.name) with
      | .ok found => .ok (.copied ⟨field.name, field.path.getD field.name, found.relatedType,
          found.collection⟩)
      | .error fault => .error [.path fault] := by
  rw [compileField, plain]
  cases field.path <;> rfl

/-- A field that is computed and has no path is derived. -/
theorem compileField_computed {view : String} {projection : Projection} {field : FieldDecl}
    {computation : Computation} (computed : field.computed = some computation)
    (unmapped : field.path = none) :
    compiler.compileField view projection field =
      (compiler.derive view projection field computation).map .computed := by
  rw [compileField, computed, unmapped]

/-- A field that is computed and has a path is refused. -/
theorem compileField_both {view : String} {projection : Projection} {field : FieldDecl}
    {computation : Computation} {path : String} (computed : field.computed = some computation)
    (mapped : field.path = some path) :
    compiler.compileField view projection field =
      .error [.computedAndMapped view field.name] := by
  rw [compileField, computed, mapped]

/-- A field compiles to a mapping exactly when the mapping copies it. -/
theorem compileField_eq_copied_iff {view : String} {projection : Projection} {field : FieldDecl}
    {mapping : Mapping} :
    compiler.compileField view projection field = .ok (.copied mapping) ↔
      compiler.Copies projection.source field mapping := by
  cases computed : field.computed with
  | none =>
    rw [compileField_copied computed, Copies]
    cases compiler.resolve projection.source (field.path.getD field.name) <;>
      simp [computed, @eq_comm _ mapping]
  | some computation =>
    cases mapped : field.path with
    | some path => simp [compileField_both computed mapped, Copies, computed]
    | none =>
      rw [compileField_computed computed mapped, Copies, computed]
      cases compiler.derive view projection field computation <;> simp [Except.map]

/-- A field compiles to a derivation exactly when the derivation computes it. -/
theorem compileField_eq_computed_iff {view : String} {projection : Projection}
    {field : FieldDecl} {derivation : Derivation} :
    compiler.compileField view projection field = .ok (.computed derivation) ↔
      compiler.Derives view projection field derivation := by
  constructor
  · intro compiled
    cases computed : field.computed with
    | none =>
      rw [compileField_copied computed] at compiled
      cases found : compiler.resolve projection.source (field.path.getD field.name) <;>
        simp [found] at compiled
    | some computation =>
      cases mapped : field.path with
      | some path =>
        rw [compileField_both computed mapped] at compiled
        cases compiled
      | none =>
        have derived : compiler.derive view projection field computation = .ok derivation := by
          rw [compileField_computed computed mapped] at compiled
          cases derived : compiler.derive view projection field computation <;>
            simp_all [Except.map]
        obtain ⟨nonempty, fields, leads, reduced, method⟩ := derive_eq_ok_iff.mp derived
        exact ⟨computation, fields, ⟨computed, mapped, nonempty, leads, reduced⟩, method⟩
  · rintro ⟨computation, fields, depends, method⟩
    have derived : compiler.derive view projection field computation = .ok derivation :=
      derive_eq_ok_iff.mpr ⟨depends.nonempty, fields, depends.leads, depends.reduced, method⟩
    rw [compileField_computed depends.computed depends.unmapped, derived]
    rfl

/-- A field compiles exactly when it is well-formed. -/
theorem exists_compileField_iff (view : String) {projection : Projection} {field : FieldDecl} :
    (∃ result, compiler.compileField view projection field = .ok result) ↔
      compiler.WellFormed projection field := by
  constructor
  · rintro ⟨mapping | derivation, compiled⟩
    · obtain ⟨plain, found, leads, -⟩ := compileField_eq_copied_iff.mp compiled
      exact .inl ⟨plain, found, leads⟩
    · obtain ⟨computation, fields, depends, method, first, -⟩ :=
        compileField_eq_computed_iff.mp compiled
      obtain ⟨candidate, tried, decl, inherited, method, declared, fits⟩ :=
        MethodRequest.exists_resolve_eq_ok_iff.mp
          ⟨method, MethodRequest.resolve_eq_ok_iff.mpr first⟩
      refine .inr ⟨computation, fields, depends, candidate, tried, decl, inherited, method,
        declared, ?_, fits.returns, ?_⟩
      · rw [fits.name, request_name]
      · rw [fits.parameters, request_parameters view field depends.leads.length_eq.symm]
  · rintro (⟨plain, found, leads⟩ | ⟨computation, fields, depends, candidate, tried, decl,
      inherited, method, declared, name, returns, parameters⟩)
    · exact ⟨_, compileField_eq_copied_iff.mpr ⟨plain, found, leads, rfl⟩⟩
    · have fits : (compiler.request view field computation fields).Fits method := by
        refine ⟨name.trans (request_name view field computation fields).symm, returns, ?_⟩
        rw [parameters, request_parameters view field depends.leads.length_eq.symm]
      obtain ⟨signature, resolved⟩ := MethodRequest.exists_resolve_eq_ok_iff.mpr
        ⟨candidate, tried, decl, inherited, method, declared, fits⟩
      exact ⟨_, compileField_eq_computed_iff.mpr ⟨computation, fields, depends, signature,
        MethodRequest.resolve_eq_ok_iff.mp resolved, rfl⟩⟩

/-- A field that does not compile has a fault. -/
theorem compileField_ne_error_nil (compiler : ViewCompiler) (view : String)
    (projection : Projection) (field : FieldDecl) :
    compiler.compileField view projection field ≠ .error [] := by
  cases computed : field.computed with
  | none =>
    rw [compileField_copied computed]
    cases compiler.resolve projection.source (field.path.getD field.name) <;> simp
  | some computation =>
    cases mapped : field.path with
    | some path => simp [compileField_both computed mapped]
    | none =>
      rw [compileField_computed computed mapped]
      have faulty := derive_ne_error_nil compiler view projection field computation
      cases derived : compiler.derive view projection field computation <;>
        simp_all [Except.map]

/-- A field has no failures exactly when it is well-formed. -/
theorem fieldFailures_eq_nil_iff {view : String} {projection : Projection} {field : FieldDecl} :
    compiler.fieldFailures view projection field = [] ↔
      compiler.WellFormed projection field := by
  rw [← exists_compileField_iff view, fieldFailures]
  have faulty := compileField_ne_error_nil compiler view projection field
  cases compiled : compiler.compileField view projection field with
  | ok result => simp
  | error faults =>
    have nonempty : faults ≠ [] := fun empty => faulty (compiled.trans (congrArg _ empty))
    simpa using nonempty

/-- The fields that compile, in order. -/
def compiledFields (compiler : ViewCompiler) (view : String) (projection : Projection)
    (fields : List FieldDecl) : List ViewField :=
  fields.filterMap fun field => (compiler.compileField view projection field).toOption

/-- A view compiles exactly when its source is registered and its fields have no failures, and
then to the compiled fields. -/
theorem compile_eq_ok_iff {view : String} {projection : Projection} {compiled : View} :
    compiler.compile view projection = .ok compiled ↔
      compiler.registry.contains projection.source = true ∧
        (∀ field ∈ compiler.model.mappedFields view, compiler.WellFormed projection field) ∧
        compiled = ⟨projection.source,
          (compiler.compiledFields view projection (compiler.model.mappedFields view)).filterMap
            ViewField.mapping?,
          (compiler.compiledFields view projection (compiler.model.mappedFields view)).filterMap
            ViewField.derivation?,
          projection.providers⟩ := by
  have faultless : ((compiler.model.mappedFields view).flatMap
        (compiler.fieldFailures view projection)).isEmpty = true ↔
      ∀ field ∈ compiler.model.mappedFields view, compiler.WellFormed projection field := by
    simp only [List.isEmpty_iff, List.flatMap_eq_nil_iff, fieldFailures_eq_nil_iff]
  rw [← faultless, compile]
  by_cases registered : compiler.registry.contains projection.source = true
  · simp only [registered, Bool.not_true, Bool.false_eq_true, ↓reduceIte, true_and]
    split
    next wellFormed => simp [wellFormed, compiledFields, @eq_comm _ compiled]
    next faulty => simp [faulty]
  · simp [registered]

/-- A field that compiles comes first among the compiled fields. -/
theorem compiledFields_cons {view : String} {projection : Projection} {field : FieldDecl}
    {rest : List FieldDecl} {result : ViewField}
    (compiled : compiler.compileField view projection field = .ok result) :
    compiler.compiledFields view projection (field :: rest) =
      result :: compiler.compiledFields view projection rest := by
  rw [compiledFields, List.filterMap_cons_some (by rw [compiled]; rfl)]
  rfl

/-- Well-formed fields compile to the mappings that copy those that are not computed and to the
derivations that compute the others, both in order. -/
theorem compiledFields_describe (view : String) (projection : Projection)
    {fields : List FieldDecl}
    (wellFormed : ∀ field ∈ fields, compiler.WellFormed projection field) :
    List.Forall₂ (compiler.Copies projection.source)
        (fields.filter fun field => field.computed.isNone)
        ((compiler.compiledFields view projection fields).filterMap ViewField.mapping?) ∧
      List.Forall₂ (compiler.Derives view projection)
        (fields.filter fun field => field.computed.isSome)
        ((compiler.compiledFields view projection fields).filterMap ViewField.derivation?) := by
  induction fields with
  | nil => exact ⟨.nil, .nil⟩
  | cons field rest ih =>
    rw [List.forall_mem_cons] at wellFormed
    obtain ⟨mappings, derivations⟩ := ih wellFormed.2
    obtain ⟨result, compiled⟩ := (exists_compileField_iff view).mpr wellFormed.1
    rw [compiledFields_cons compiled]
    cases result with
    | copied mapping =>
      have copies := compileField_eq_copied_iff.mp compiled
      rw [List.filter_cons_of_pos (by simp [copies.1]),
        List.filter_cons_of_neg (by simp [copies.1])]
      exact ⟨.cons copies mappings, derivations⟩
    | computed derivation =>
      have derives := compileField_eq_computed_iff.mp compiled
      obtain ⟨computation, found, depends, -⟩ := id derives
      rw [List.filter_cons_of_neg (by simp [depends.computed]),
        List.filter_cons_of_pos (by simp [depends.computed])]
      exact ⟨mappings, .cons derives derivations⟩

/-- A view compiles exactly when its source is registered and its effective mapped fields are
well-formed. -/
theorem exists_compile_iff {view : String} {projection : Projection} :
    (∃ compiled, compiler.compile view projection = .ok compiled) ↔
      compiler.registry.contains projection.source = true ∧
        ∀ field ∈ compiler.model.mappedFields view, compiler.WellFormed projection field := by
  simp only [compile_eq_ok_iff, exists_and_left, exists_eq, and_true]

/-- A compiled view holds what its fields describe. -/
theorem compile_describes {view : String} {projection : Projection} {compiled : View}
    (succeeds : compiler.compile view projection = .ok compiled) :
    compiler.Describes view projection (compiler.model.mappedFields view) compiled := by
  obtain ⟨-, wellFormed, rfl⟩ := compile_eq_ok_iff.mp succeeds
  obtain ⟨mappings, derivations⟩ := compiledFields_describe view projection wellFormed
  exact ⟨rfl, mappings, derivations, rfl⟩

/-- What a declared type adds to the compiled views. -/
def compiledView? (compiler : ViewCompiler) (decl : TypeDecl) : Option (String × View) :=
  decl.projection.bind fun projection =>
    (compiler.compile decl.name projection).toOption.map (decl.name, ·)

/-- A type adds a compiled view exactly when it is a view that compiles to it. -/
theorem compiledView?_eq_some_iff {decl : TypeDecl} {entry : String × View} :
    compiler.compiledView? decl = some entry ↔
      ∃ projection, decl.projection = some projection ∧
        compiler.compile decl.name projection = .ok entry.2 ∧ decl.name = entry.1 := by
  obtain ⟨name, view⟩ := entry
  rw [compiledView?, Option.bind_eq_some_iff]
  refine exists_congr fun projection => and_congr_right fun _ => ?_
  cases compiler.compile decl.name projection <;> simp [Except.toOption, and_comm]

/-- What is reported of the outcome of a view: nothing, or its failures and that it is left
out. -/
def outcomeReport (view : String) : Except (List ViewFailure) View → List Diagnostic
  | .ok _ => []
  | .error failures => failures.map ViewFailure.diagnostic ++ [droppedView view failures]

/-- What is reported of a declared type. -/
def viewReport (compiler : ViewCompiler) (decl : TypeDecl) : List Diagnostic :=
  decl.projection.elim [] fun projection =>
    outcomeReport decl.name (compiler.compile decl.name projection)

/-- Each type adds its own compiled view and its own report. -/
theorem compileEach_eq (decls : List TypeDecl) :
    compiler.compileEach decls =
      ⟨decls.filterMap compiler.compiledView?, decls.flatMap compiler.viewReport⟩ := by
  induction decls with
  | nil => rfl
  | cons decl rest ih =>
    rw [compileEach, ih, List.flatMap_cons]
    cases projected : decl.projection with
    | none =>
      rw [List.filterMap_cons_none (by simp [compiledView?, projected])]
      simp [viewReport, projected]
    | some projection =>
      cases compiled : compiler.compile decl.name projection with
      | ok view =>
        rw [List.filterMap_cons_some (b := (decl.name, view))
          (by simp [compiledView?, projected, compiled, Except.toOption])]
        simp [viewReport, projected, compiled, outcomeReport]
      | error failures =>
        rw [List.filterMap_cons_none
          (by simp [compiledView?, projected, compiled, Except.toOption])]
        simp [viewReport, projected, compiled, outcomeReport]

end ViewCompiler

namespace Compilation

/-- The compiled views of a compilation are those of the declared views in order. -/
theorem run_views (settings : CompilerSettings) (model : Model) :
    (run settings model).views = model.views.filterMap
      (settings.viewCompiler model (run settings model).schema).compiledView? := by
  change (ViewCompiler.compileEach _ model.views).views = _
  rw [ViewCompiler.compileEach_eq]
  rfl

/-- The diagnostics of a compilation are the findings on the schema and then the reports of the
declared views in order. -/
theorem run_diagnostics (settings : CompilerSettings) (model : Model) :
    (run settings model).diagnostics.items =
      (discoverSchema settings model model.sources).2.map Finding.diagnostic ++
        model.views.flatMap
          (settings.viewCompiler model (run settings model).schema).viewReport := by
  change _ ++ (ViewCompiler.compileEach _ model.views).diagnostics = _
  rw [ViewCompiler.compileEach_eq]
  rfl

/-- A declared view stands in the result with a compiled view exactly when it compiles to it. -/
theorem mem_run_views_iff (settings : CompilerSettings) {model : Model} {decl : TypeDecl}
    {projection : Projection} (declared : decl ∈ model.types)
    (projects : decl.projection = some projection) {view : View} :
    (decl.name, view) ∈ (run settings model).views ↔
      (settings.viewCompiler model (run settings model).schema).compile decl.name projection =
        .ok view := by
  simp only [run_views, List.mem_filterMap, ViewCompiler.compiledView?_eq_some_iff]
  constructor
  · rintro ⟨other, listed, projected, otherProjects, succeeds, sameName⟩
    obtain rfl : other = decl :=
      Model.eq_of_name_eq (List.mem_of_mem_filter listed) declared sameName
    obtain rfl : projected = projection := Option.some.inj (otherProjects.symm.trans projects)
    exact succeeds
  · intro succeeds
    exact ⟨decl, Model.mem_views_iff.mpr ⟨declared, projection, projects⟩, projection, projects,
      succeeds, rfl⟩

/-- The source of a declared view is a root of the discovered schema. -/
theorem source_mem_sources {model : Model} {decl : TypeDecl} {projection : Projection}
    (declared : decl ∈ model.types) (projects : decl.projection = some projection) :
    projection.source ∈ model.sources := by
  have view : decl ∈ model.views := Model.mem_views_iff.mpr ⟨declared, projection, projects⟩
  exact List.mem_map_of_mem (List.mem_filterMap.mpr ⟨decl, view, projects⟩)

/-- A declared view is compiled exactly when its source is an entity or a value object and every
closest mapped declaration of a field over its ancestry is well-formed. A compiled view holds
one mapping for each of its fields that is not computed, one derivation for each that is, both
in the order of the fields, and the declared source and providers. -/
theorem run_compiles_iff_wellFormed (settings : CompilerSettings) {model : Model}
    {decl : TypeDecl} {projection : Projection} (declared : decl ∈ model.types)
    (projects : decl.projection = some projection) :
    let compilation := run settings model
    let compiler := settings.viewCompiler model compilation.schema
    (decl.name ∈ compilation.views.map Prod.fst ↔
      (compiler.classifier.kindOf projection.source = .entityLike ∨
          compiler.classifier.kindOf projection.source = .embeddableLike) ∧
        ∀ field, model.IsClosest FieldDecl.isMapped decl.name field →
          compiler.WellFormed projection field) ∧
      ∀ view, (decl.name, view) ∈ compilation.views →
        compiler.Describes decl.name projection (model.mappedFields decl.name) view := by
  intro compilation compiler
  have registered : compilation.schema.contains projection.source = true ↔
      compiler.classifier.IsSchemaType projection.source := by
    have contained :=
      discoverSchema_contains_iff settings model model.sources projection.source
    exact contained.trans ⟨Classifier.Reachable.isSchemaType,
      Classifier.reachable_root (source_mem_sources declared projects)⟩
  have listed : decl.name ∈ compilation.views.map Prod.fst ↔
      ∃ view, compiler.compile decl.name projection = .ok view := by
    simp only [List.mem_map, Prod.exists, exists_eq_right, exists_and_right]
    exact exists_congr fun view => mem_run_views_iff settings declared projects
  constructor
  · rw [listed, ViewCompiler.exists_compile_iff]
    refine and_congr registered (forall_congr' fun field => imp_congr_left ?_)
    exact Model.mem_effectiveFields_iff
  · intro view held
    exact ViewCompiler.compile_describes ((mem_run_views_iff settings declared projects).mp held)

/-- A field without markers. -/
def plainField (name : String) (type : TypeExpr) : FieldDecl where
  name := name
  type := type
  isIdentifier := false
  isEmbeddedIdentifier := false
  isEmbedded := false
  isTransient := false
  isStatic := false
  relation := none
  ordering := none
  mapsIdentifier := none
  path := none
  computed := none
  method := none
  isExcluded := false

/-- A class without markers and members. -/
def plainType (name : String) : TypeDecl where
  name := name
  kind := .plain
  parent := none
  isEntity := false
  isEmbeddable := false
  identifierClass := none
  projection := none
  fields := []
  methods := []

/-- An order with its lines. -/
def order : TypeDecl :=
  { plainType "Order" with
    isEntity := true
    fields :=
      [{ plainField "id" (.named "Long") with isIdentifier := true },
        plainField "lines" (.generic "List" [.named "Line"])] }

/-- A view of an order that copies the number and counts the lines. -/
def orderSummary : TypeDecl :=
  { plainType "OrderSummary" with
    projection := some ⟨"Order", [⟨"OrderMethods", none⟩]⟩
    fields :=
      [{ plainField "number" (.named "Long") with path := some "id" },
        { plainField "lineCount" (.named "int") with
          computed := some ⟨["lines"], ["count"]⟩ }] }

/-- What counts the lines of an order. -/
def orderMethods : TypeDecl :=
  { plainType "OrderMethods" with
    methods :=
      [⟨"getLineCount", .named "int", [⟨"lines", .generic "List" [.named "Line"]⟩], true⟩] }

/-- Orders, a view of them, and the methods that it uses. -/
def orders : Model := ⟨[order, orderMethods, orderSummary], by decide, none⟩

/-- The summary of an order is compiled exactly when orders are a schema type and its two fields
are well-formed. -/
theorem run_compiles_orderSummary :
    (orderSummary ∈ orders.types ∧
      orderSummary.projection = some ⟨"Order", [⟨"OrderMethods", none⟩]⟩) ∧
      let compilation := run .standard orders
      let compiler := CompilerSettings.standard.viewCompiler orders compilation.schema
      ("OrderSummary" ∈ compilation.views.map Prod.fst ↔
        (compiler.classifier.kindOf "Order" = .entityLike ∨
            compiler.classifier.kindOf "Order" = .embeddableLike) ∧
          ∀ field, orders.IsClosest FieldDecl.isMapped "OrderSummary" field →
            compiler.WellFormed ⟨"Order", [⟨"OrderMethods", none⟩]⟩ field) ∧
        ∀ view, ("OrderSummary", view) ∈ compilation.views →
          compiler.Describes "OrderSummary" ⟨"Order", [⟨"OrderMethods", none⟩]⟩
            (orders.mappedFields "OrderSummary") view :=
  have declared : orderSummary ∈ orders.types := by decide
  ⟨⟨declared, rfl⟩, run_compiles_iff_wellFormed .standard declared rfl⟩

end Compilation

end SchemaProjection
