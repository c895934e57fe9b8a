import SchemaProjection.Proofs.Accounting
import SchemaProjection.Proofs.Scores

/-!
# Suggestions

A suggestion is only said. It stands in the fault of a path that names no field and nowhere else,
and no decision reads it: whatever a compiler does without suggestions is what it does with them,
once they are left out of the faults (`ViewCompiler.compile_plain`). So a compilation comes to the
same schema and the same views, and its diagnostics differ in the context of unknown fields only.
There the suggestion is one of the names that were compared, a field of the type that has no field
of the segment.
-/
namespace SchemaProjection

/-- A fault without its suggestion. -/
def PathFault.plain : PathFault → PathFault
  | .unknownField segment type path _ => .unknownField segment type path none
  | fault => fault

/-- A fault without the suggestion of its path. -/
def ViewFault.plain : ViewFault → ViewFault
  | .path fault => .path fault.plain
  | fault => fault

/-- A failure without the suggestion of its path. -/
def ViewFailure.plain (failure : ViewFailure) : ViewFailure :=
  { failure with fault := failure.fault.plain }

/-- A diagnostic without the context of an unknown field. -/
def Diagnostic.plain (item : Diagnostic) : Diagnostic :=
  if item.code = .unknownField then { item with context := [] } else item

/-- A navigation that suggests nothing. -/
def Navigation.plain (navigation : Navigation) : Navigation := { navigation with suggests := false }

/-- A compiler that suggests nothing. -/
def ViewCompiler.plain (compiler : ViewCompiler) : ViewCompiler :=
  { compiler with suggests := false }

/-- A diagnostic is as severe without its context. -/
theorem Diagnostic.severity_plain (item : Diagnostic) : item.plain.severity = item.severity := by
  rw [plain]
  split <;> rfl

/-- What is said of a fault of a path without its suggestion is what is said of it, but for the
context of an unknown field. -/
theorem PathFault.about_plain (fault : PathFault) (element : String) :
    Diagnostic.about element fault.plain.remark =
      (Diagnostic.about element fault.remark).plain := by
  cases fault <;> rfl

/-- The diagnostic of a failure without its suggestion. -/
theorem ViewFailure.diagnostic_plain (failure : ViewFailure) :
    failure.plain.diagnostic = failure.diagnostic.plain := by
  obtain ⟨element, fault⟩ := failure
  cases fault with
  | path fault => exact fault.about_plain element
  | method fault => cases fault <;> rfl
  | _ => rfl

/-- A finding makes no suggestion. -/
theorem Finding.diagnostic_plain (finding : Finding) :
    finding.diagnostic.plain = finding.diagnostic := by
  cases finding <;> rfl

namespace Navigation

/-- Leaving out suggestions keeps the registry that is navigated. -/
@[simp]
theorem plain_registry (navigation : Navigation) :
    navigation.plain.registry = navigation.registry := rfl

/-- Leaving out suggestions keeps the kinds of names. -/
@[simp]
theorem plain_classifier (navigation : Navigation) :
    navigation.plain.classifier = navigation.classifier := rfl

/-- A navigation without suggestions suggests nothing. -/
@[simp]
theorem plain_suggests (navigation : Navigation) : navigation.plain.suggests = false := rfl

/-- Leaving out suggestions changes the look-up of a segment only in the suggestion. -/
theorem fieldAt_plain (navigation : Navigation) (path type segment : String) :
    navigation.plain.fieldAt path type segment =
      (navigation.fieldAt path type segment).mapError PathFault.plain := by
  simp only [fieldAt, plain_registry, plain_suggests]
  cases navigation.registry.lookup type with
  | none => rfl
  | some fields =>
    dsimp only
    cases fields.find? segment <;> rfl

/-- Leaving out suggestions changes the following of segments only in the suggestion. -/
theorem follow_plain (navigation : Navigation) (path type segment : String) (rest : List String) :
    navigation.plain.follow path type segment rest =
      (navigation.follow path type segment rest).mapError PathFault.plain := by
  induction rest generalizing type segment with
  | nil => exact navigation.fieldAt_plain path type segment
  | cons next rest ih =>
    simp only [follow_cons, fieldAt_plain, plain_classifier, ih]
    cases navigation.fieldAt path type segment with
    | error fault => rfl
    | ok field =>
      simp only [Except.mapError]
      split <;> rfl

/-- Paths lead to the same field, or fail with the same fault but for its suggestion. -/
theorem resolve_plain (navigation : Navigation) (root path : String) :
    navigation.plain.resolve root path =
      (navigation.resolve root path).mapError PathFault.plain := by
  rw [resolve, resolve]
  cases Text.segments path with
  | nil => rfl
  | cons segment rest => exact navigation.follow_plain path root segment rest

end Navigation

namespace ViewCompiler

/-- Leaving out suggestions keeps the registry that views are compiled against. -/
@[simp]
theorem plain_registry (compiler : ViewCompiler) :
    compiler.plain.registry = compiler.registry := rfl

/-- Leaving out suggestions keeps the declared types. -/
@[simp]
theorem plain_model (compiler : ViewCompiler) : compiler.plain.model = compiler.model := rfl

/-- Leaving out suggestions keeps the methods that computed fields ask for. -/
@[simp]
theorem plain_request (compiler : ViewCompiler) : compiler.plain.request = compiler.request := rfl

/-- Paths lead to the same field, or fail with the same fault but for its suggestion. -/
theorem resolve_plain (compiler : ViewCompiler) (source path : String) :
    compiler.plain.resolve source path =
      (compiler.resolve source path).mapError PathFault.plain :=
  compiler.toNavigation.resolve_plain source path

/-- Errors may be changed before or after they are collected. -/
theorem collected_mapError {α : Type} (image : PathFault → PathFault)
    (results : List (Except PathFault α)) :
    collected (results.map fun result => result.mapError image) =
      (collected results).mapError (List.map image) := by
  induction results with
  | nil => rfl
  | cons result rest ih =>
    rw [List.map_cons, collected.eq_def, collected.eq_def (result :: rest)]
    dsimp only
    rw [ih]
    cases result <;> cases collected rest <;> rfl

/-- Dependencies lead to the same fields, or fail with the same faults but for suggestions. -/
theorem dependencies_plain (compiler : ViewCompiler) (source : String) (paths : List String) :
    compiler.plain.dependencies source paths =
      (compiler.dependencies source paths).mapError (List.map PathFault.plain) := by
  rw [dependencies, dependencies, ← collected_mapError, List.map_map]
  exact congrArg collected (List.map_congr_left fun path _ => compiler.resolve_plain source path)

/-- What is wrong with the reducers is no fault of a path. -/
theorem map_plain_reducerFaults (view : String) (field : FieldDecl) (computation : Computation)
    (fields : List Field) :
    (reducerFaults view field computation fields).map ViewFault.plain =
      reducerFaults view field computation fields := by
  rw [reducerFaults]
  split <;> rfl

/-- A computed field has the same derivation, or the same faults but for suggestions. -/
theorem derive_plain (compiler : ViewCompiler) (view : String) (projection : Projection)
    (field : FieldDecl) (computation : Computation) :
    compiler.plain.derive view projection field computation =
      (compiler.derive view projection field computation).mapError (List.map ViewFault.plain) := by
  by_cases empty : computation.dependencies = []
  · simp [derive, empty, Except.mapError, ViewFault.plain]
  · have led := compiler.dependencies_plain projection.source computation.dependencies
    cases leads : compiler.dependencies projection.source computation.dependencies with
    | error faults =>
      rw [leads] at led
      simp [derive, led, leads, empty, Except.mapError, ViewFault.plain]
    | ok fields =>
      rw [leads] at led
      have reducers := map_plain_reducerFaults view field computation fields
      rw [derive_of_leads empty led, derive_of_leads empty leads, plain_request, plain_model]
      cases (compiler.request view field computation fields).resolve compiler.model
          (candidates projection field) with
      | error fault => simp [Except.mapError, reducers, ViewFault.plain]
      | ok method =>
        dsimp only
        split
        · rfl
        · rw [Except.mapError, reducers]

/-- A field of a view compiles to the same, or has the same faults but for suggestions. -/
theorem compileField_plain (compiler : ViewCompiler) (view : String) (projection : Projection)
    (field : FieldDecl) :
    compiler.plain.compileField view projection field =
      (compiler.compileField view projection field).mapError (List.map ViewFault.plain) := by
  cases computed : field.computed with
  | none =>
    rw [compileField_copied computed, compileField_copied computed, resolve_plain]
    cases compiler.resolve projection.source (field.path.getD field.name) <;> rfl
  | some computation =>
    cases mapped : field.path with
    | some path =>
      rw [compileField_both computed mapped, compileField_both computed mapped]
      rfl
    | none =>
      rw [compileField_computed computed mapped, compileField_computed computed mapped,
        derive_plain]
      cases compiler.derive view projection field computation <;> rfl

/-- A field of a view has the same failures but for suggestions. -/
theorem fieldFailures_plain (compiler : ViewCompiler) (view : String) (projection : Projection)
    (field : FieldDecl) :
    compiler.plain.fieldFailures view projection field =
      (compiler.fieldFailures view projection field).map ViewFailure.plain := by
  rw [fieldFailures, fieldFailures, compileField_plain]
  cases compiler.compileField view projection field with
  | ok compiled => rfl
  | error faults =>
    simp only [Except.mapError, List.map_map]
    rfl

/-- A view compiles to the same, or has the same failures but for suggestions. -/
theorem compile_plain (compiler : ViewCompiler) (view : String) (projection : Projection) :
    compiler.plain.compile view projection =
      (compiler.compile view projection).mapError (List.map ViewFailure.plain) := by
  have failures (fields : List FieldDecl) :
      fields.flatMap (compiler.plain.fieldFailures view projection) =
        (fields.flatMap (compiler.fieldFailures view projection)).map ViewFailure.plain := by
    rw [List.map_flatMap]
    exact List.flatMap_congr fun field _ => compiler.fieldFailures_plain view projection field
  have compiled (field : FieldDecl) :
      (compiler.plain.compileField view projection field).toOption =
        (compiler.compileField view projection field).toOption := by
    rw [compileField_plain]
    cases compiler.compileField view projection field <;> rfl
  simp only [compile, plain_registry, plain_model, failures, compiled, List.isEmpty_map]
  split
  · rfl
  · split <;> rfl

/-- Leaving out suggestions keeps the compiled view that a declared type adds. -/
theorem compiledView?_plain (compiler : ViewCompiler) :
    compiler.plain.compiledView? = compiler.compiledView? := by
  funext decl
  simp only [compiledView?, compile_plain]
  cases decl.projection with
  | none => rfl
  | some projection =>
    simp only [Option.bind_some]
    cases compiler.compile decl.name projection <;> rfl

/-- Leaving out suggestions changes what is reported of a declared type only by the suggestions. -/
theorem viewReport_plain (compiler : ViewCompiler) (decl : TypeDecl) :
    compiler.plain.viewReport decl = (compiler.viewReport decl).map Diagnostic.plain := by
  simp only [viewReport, compile_plain]
  cases decl.projection with
  | none => rfl
  | some projection =>
    simp only [Option.elim_some]
    cases compiler.compile decl.name projection with
    | ok view => rfl
    | error failures =>
      have noted : (droppedView decl.name failures).plain = droppedView decl.name failures := rfl
      have counted : droppedView decl.name (failures.map ViewFailure.plain) =
          droppedView decl.name failures := by
        rw [droppedView, droppedView, List.length_map]
      have said : (failures.map ViewFailure.plain).map ViewFailure.diagnostic =
          (failures.map ViewFailure.diagnostic).map Diagnostic.plain := by
        rw [List.map_map, List.map_map]
        exact List.map_congr_left fun failure _ => failure.diagnostic_plain
      simp only [Except.mapError, outcomeReport, counted, said, List.map_append, List.map_cons,
        List.map_nil, noted]

end ViewCompiler

namespace Navigation

variable {navigation : Navigation}

/-- A fault suggests nothing, or a field of the type that has no field of the segment. -/
def SuggestsField (registry : Registry) : PathFault → Prop
  | .unknownField _ type _ (some name) =>
    ∃ fields, registry.lookup type = some fields ∧ name ∈ fields.names
  | _ => True

/-- For a segment that names no field, nothing or a field of its type is suggested. -/
theorem suggestsField_of_fieldAt {path type segment : String} {fault : PathFault}
    (fails : navigation.fieldAt path type segment = .error fault) :
    SuggestsField navigation.registry fault := by
  rw [fieldAt] at fails
  cases found : navigation.registry.lookup type with
  | none =>
    simp only [found, Except.error.injEq] at fails
    exact fails ▸ trivial
  | some fields =>
    simp only [found] at fails
    split at fails
    · cases fails
    · cases suggested : Text.suggestion? fields.names segment <;>
        cases on : navigation.suggests <;>
        simp only [on, suggested, Bool.false_eq_true, ↓reduceIte, Except.error.injEq] at fails <;>
        rw [← fails]
      case some.true name => exact ⟨fields, found, Text.mem_of_suggestion suggested⟩
      all_goals trivial

/-- For a path that names no field, nothing or a field of the type it came to is suggested. -/
theorem suggestsField_of_resolve {root path : String} {fault : PathFault}
    (fails : navigation.resolve root path = .error fault) :
    SuggestsField navigation.registry fault := by
  have followed (type segment : String) (rest : List String)
      (fails : navigation.follow path type segment rest = .error fault) :
      SuggestsField navigation.registry fault := by
    induction rest generalizing type segment with
    | nil => exact suggestsField_of_fieldAt fails
    | cons next rest ih =>
      rw [follow_cons] at fails
      cases looked : navigation.fieldAt path type segment with
      | error first =>
        rw [looked] at fails
        exact Except.error.inj fails ▸ suggestsField_of_fieldAt looked
      | ok field =>
        simp only [looked] at fails
        split at fails
        · exact Except.error.inj fails ▸ trivial
        · exact ih _ _ fails
  rw [resolve] at fails
  split at fails
  · exact Except.error.inj fails ▸ trivial
  · exact followed _ _ _ fails

end Navigation

/-- Two diagnostics are the same but for a suggestion: where a segment names no field, one has no
context, and the other has none or one line with the name of a field of the type. -/
structure Diagnostic.SameButSuggestion (schema : Registry) (plain item : Diagnostic) : Prop where
  /-- The diagnostics are on the same element. -/
  element : plain.element = item.element
  /-- The diagnostics have the same code. -/
  code : plain.code = item.code
  /-- The diagnostics have the same message. -/
  message : plain.message = item.message
  /-- The contexts are the same but at an unknown field. -/
  context : plain.code ≠ .unknownField → plain.context = item.context
  /-- What is said of an unknown field. -/
  suggestion : plain.code = .unknownField → plain.context = [] ∧ (item.context = [] ∨
    ∃ (segment type path : String) (fields : Table Field) (name : String),
      item.message = s!"Unknown field '{segment}' on {type} in path '{path}'" ∧
        schema.lookup type = some fields ∧ name ∈ fields.names ∧
          item.context = [s!"did you mean '{name}'?"])

namespace Compilation

/-- Without suggestions a compilation has the same schema and the same views, and the diagnostics
are without the contexts of unknown fields. -/
theorem run_plain (settings : CompilerSettings) (model : Model) :
    let plain := run { settings with suggestsFields := false } model
    plain.schema = (run settings model).schema ∧ plain.views = (run settings model).views ∧
      plain.diagnostics.items = (run settings model).diagnostics.items.map Diagnostic.plain := by
  intro plain
  have schema : plain.schema = (run settings model).schema := rfl
  have compiler : CompilerSettings.viewCompiler { settings with suggestsFields := false } model
      plain.schema = (settings.viewCompiler model (run settings model).schema).plain := rfl
  refine ⟨schema, ?_, ?_⟩
  · rw [run_views, run_views, compiler, ViewCompiler.compiledView?_plain]
  · have findings : (discoverSchema settings model model.sources).2.map Finding.diagnostic =
        ((discoverSchema settings model model.sources).2.map Finding.diagnostic).map
          Diagnostic.plain := by
      rw [List.map_map]
      exact List.map_congr_left fun finding _ => finding.diagnostic_plain.symm
    have reports : model.views.flatMap
        (settings.viewCompiler model (run settings model).schema).plain.viewReport =
          (model.views.flatMap
            (settings.viewCompiler model (run settings model).schema).viewReport).map
              Diagnostic.plain := by
      rw [List.map_flatMap]
      exact List.flatMap_congr fun view _ => ViewCompiler.viewReport_plain _ view
    rw [run_diagnostics, run_diagnostics, compiler, List.map_append, ← findings, ← reports]
    rfl

/-- A diagnostic on an unknown field says which segment of which path is no field of which type,
and then suggests nothing or a field of that type. -/
theorem run_unknownField (settings : CompilerSettings) (model : Model) {item : Diagnostic}
    (reported : item ∈ (run settings model).diagnostics.items)
    (unknown : item.code = .unknownField) :
    ∃ element segment type path suggestion,
      item = .about element (PathFault.unknownField segment type path suggestion).remark ∧
        Navigation.SuggestsField (run settings model).schema
          (.unknownField segment type path suggestion) := by
  obtain ⟨finding, -, rfl⟩ | ⟨⟨element, fault⟩, rfl, source, arises⟩ | ⟨view, failures, rfl⟩ :=
    mem_run_diagnostics_cases settings model reported
  · cases finding <;> cases unknown
  · cases arises with
    | @path path fault fails =>
      have suggests := Navigation.suggestsField_of_resolve fails
      cases fault with
      | unknownField segment type path suggestion =>
        exact ⟨element, segment, type, path, suggestion, rfl, suggests⟩
      | _ => cases unknown
    | method fails =>
      obtain ⟨-, rfl⟩ := MethodRequest.resolve_eq_error_iff.mp fails
      cases unknown
    | _ => cases unknown
  · cases unknown

/-- A diagnostic is the same without its suggestion. -/
theorem run_item_sameButSuggestion (settings : CompilerSettings) (model : Model)
    {item : Diagnostic} (reported : item ∈ (run settings model).diagnostics.items) :
    item.plain.SameButSuggestion (run settings model).schema item := by
  by_cases unknown : item.code = .unknownField
  · obtain ⟨element, segment, type, path, suggestion, rfl, suggests⟩ :=
      run_unknownField settings model reported unknown
    refine ⟨rfl, rfl, rfl, fun other => absurd rfl other, fun _ => ⟨rfl, ?_⟩⟩
    cases suggestion with
    | none => exact .inl rfl
    | some name =>
      obtain ⟨fields, found, listed⟩ := suggests
      exact .inr ⟨segment, type, path, fields, name, rfl, found, listed, rfl⟩
  · rw [Diagnostic.plain, if_neg unknown]
    exact ⟨rfl, rfl, rfl, fun _ => rfl, fun known => absurd known unknown⟩

/-- Suggestions are never read. With and without them a compilation has the same schema, the same
views, and as many diagnostics, on the same elements, with the same codes and messages in the same
order; it has errors in both cases or in none. The contexts are the same as well, but that of an
unknown field: it is empty without suggestions, and with them it is empty or a single line that
names a field of the type in which the segment was looked up. -/
theorem run_sameButSuggestions (settings : CompilerSettings) (model : Model) :
    let plain := run { settings with suggestsFields := false } model
    let suggesting := run { settings with suggestsFields := true } model
    plain.schema = suggesting.schema ∧ plain.views = suggesting.views ∧
      List.Forall₂ (Diagnostic.SameButSuggestion suggesting.schema) plain.diagnostics.items
        suggesting.diagnostics.items ∧
      plain.hasErrors = suggesting.hasErrors := by
  intro plain suggesting
  obtain ⟨schemas, views, items⟩ := run_plain { settings with suggestsFields := true } model
  refine ⟨schemas, views, ?_, ?_⟩
  · rw [items, List.forall₂_map_left_iff]
    exact List.forall₂_same.mpr fun item => run_item_sameButSuggestion _ model
  · have errors : plain.diagnostics.errors.isEmpty = suggesting.diagnostics.errors.isEmpty := by
      simp only [Diagnostics.errors, Diagnostics.ofSeverity, plain, items, List.filter_map,
        List.isEmpty_map, Function.comp_def, Diagnostic.severity_plain]
      rfl
    rw [hasErrors, hasErrors, Diagnostics.hasErrors, Diagnostics.hasErrors, errors]

end Compilation

end SchemaProjection
