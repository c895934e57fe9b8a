import Mathlib.Algebra.GroupWithZero.Nat
import SchemaProjection.Command.Run
import SchemaProjection.Proofs.Findings

/-!
# Every view is accounted for

A declared view either stands in the result or is dropped, and then its failures are reported
and after them a note that it is left out. A dropped view has at least one failure and every
failure is an error, so the errors of a compilation are the failures and the findings on embedded
fields, the warnings are the findings on identifiers, and the notes are the dropped views
(`Accounts`). Why a single method was rejected is told in the context of the failure that no
method fits; no diagnostic of its own has such a code.
-/
namespace SchemaProjection

/-- The codes of what is wrong with a single method. -/
def rejectionCodes : List Code := [.returnType, .parameterCount, .parameterType]

/-- A finding is no rejection of a method. -/
theorem Finding.code_not_mem_rejectionCodes (finding : Finding) :
    finding.code ∉ rejectionCodes := by
  cases finding <;> simp [code, rejectionCodes]

namespace ViewFault

/-- Whatever is wrong with a view or a field of it is an error. -/
theorem severity_eq_error (fault : ViewFault) : fault.remark.code.severity = .error := by
  cases fault with
  | path fault => cases fault <;> rfl
  | method fault => cases fault <;> rfl
  | _ => rfl

/-- A fault other than the rejection of a single method. -/
def NoRejection (fault : ViewFault) : Prop := fault.remark.code ∉ rejectionCodes

/-- A fault of a path is no rejection. -/
theorem noRejection_path (fault : PathFault) : (path fault).NoRejection := by
  cases fault <;> simp [NoRejection, remark, PathFault.remark, PathFault.code, rejectionCodes]

end ViewFault

namespace ViewCompiler

variable {compiler : ViewCompiler}

/-- The fault that the reducers of a computed field are not as many as the collections that it
depends on, if they are not. -/
def reducerFaults (view : String) (field : FieldDecl) (computation : Computation)
    (fields : List Field) : List ViewFault :=
  let required := (fields.filter Field.isCollection).length
  if computation.reducers.length = required then []
  else [.reducerCount view field.name required computation.reducers.length]

/-- Where the dependencies lead to fields, the method is looked for, and what became of it is told
beside what is wrong with the reducers. -/
theorem derive_of_leads {view : String} {projection : Projection} {field : FieldDecl}
    {computation : Computation} {fields : List Field} (nonempty : computation.dependencies ≠ [])
    (leads : compiler.dependencies projection.source computation.dependencies = .ok fields) :
    compiler.derive view projection field computation =
      match (compiler.request view field computation fields).resolve compiler.model
          (candidates projection field) with
      | .error fault => .error (reducerFaults view field computation fields ++ [.method fault])
      | .ok method =>
        if (reducerFaults view field computation fields).isEmpty then
          .ok ⟨field.name, computation.dependencies, computation.reducers, field.method, method⟩
        else .error (reducerFaults view field computation fields) := by
  rw [derive, if_neg (by simpa using nonempty), leads]
  rfl

/-- The ways in which a computed field can fail: it has no dependencies; or some of them lead
nowhere, and nothing else is told; or the number of reducers is wrong or the method is missing,
and both are told. -/
theorem derive_error_cases {view : String} {projection : Projection} {field : FieldDecl}
    {computation : Computation} {faults : List ViewFault}
    (fails : compiler.derive view projection field computation = .error faults) :
    faults = [.noDependencies view field.name] ∨
      (∃ paths, compiler.dependencies projection.source computation.dependencies = .error paths ∧
        faults = paths.map .path) ∨
      ∃ fields, compiler.dependencies projection.source computation.dependencies = .ok fields ∧
        ((∃ fault, (compiler.request view field computation fields).resolve compiler.model
            (candidates projection field) = .error fault ∧
          faults = reducerFaults view field computation fields ++ [.method fault]) ∨
        faults = reducerFaults view field computation fields) := by
  by_cases empty : computation.dependencies = []
  · rw [derive, if_pos (by simpa using empty)] at fails
    exact .inl (Except.error.inj fails).symm
  · cases leads : compiler.dependencies projection.source computation.dependencies with
    | error paths =>
      rw [derive, if_neg (by simpa using empty), leads] at fails
      exact .inr (.inl ⟨paths, rfl, (Except.error.inj fails).symm⟩)
    | ok fields =>
      rw [derive_of_leads empty leads] at fails
      refine .inr (.inr ⟨fields, rfl, ?_⟩)
      split at fails
      next fault resolved => exact .inl ⟨fault, resolved, (Except.error.inj fails).symm⟩
      next method resolved =>
        by_cases reduced : (reducerFaults view field computation fields).isEmpty = true
        · rw [if_pos reduced] at fails
          cases fails
        · rw [if_neg reduced] at fails
          exact .inr (Except.error.inj fails).symm

/-- Only errors of the results are collected. -/
theorem error_mem_of_collected {α : Type} {results : List (Except PathFault α)}
    {faults : List PathFault} (failed : collected results = .error faults) :
    ∀ fault ∈ faults, .error fault ∈ results := by
  induction results generalizing faults with
  | nil => cases failed
  | cons result rest ih =>
    rw [collected.eq_def] at failed
    cases later : collected rest with
    | ok values =>
      cases result with
      | ok value => simp [later] at failed
      | error first =>
        simp only [later, Except.error.injEq] at failed
        simp [← failed]
    | error others =>
      have behind : ∀ fault ∈ others, .error fault ∈ result :: rest :=
        fun fault faulty => List.mem_cons_of_mem _ (ih later fault faulty)
      cases result with
      | ok value =>
        simp only [later, Except.error.injEq] at failed
        exact failed ▸ behind
      | error first =>
        simp only [later, Except.error.injEq] at failed
        exact failed ▸ List.forall_mem_cons.mpr ⟨List.mem_cons_self, behind⟩

/-- Dependencies fail with what is wrong with paths among them. -/
theorem resolve_of_dependencies_error {source : String} {paths : List String}
    {faults : List PathFault} (fails : compiler.dependencies source paths = .error faults) :
    ∀ fault ∈ faults, ∃ path, compiler.resolve source path = .error fault := by
  intro fault faulty
  obtain ⟨path, -, failed⟩ := List.mem_map.mp (error_mem_of_collected fails fault faulty)
  exact ⟨path, failed⟩

/-- How a fault of a view of a source arises: from a path that leads nowhere, from a request for a
method that fails, or from the declaration. -/
inductive Arises (compiler : ViewCompiler) (source : String) : ViewFault → Prop where
  /-- The source has no fields. -/
  | unresolvedSource (view : String) : Arises compiler source (.unresolvedSource view source)
  /-- A computed field depends on nothing. -/
  | noDependencies (view field : String) : Arises compiler source (.noDependencies view field)
  /-- A computed field has not as many reducers as collections. -/
  | reducerCount (view field : String) (required found : Nat) :
    Arises compiler source (.reducerCount view field required found)
  /-- A field is computed and copied. -/
  | computedAndMapped (view field : String) :
    Arises compiler source (.computedAndMapped view field)
  /-- A path leads nowhere from the source. -/
  | path {path : String} {fault : PathFault} (fails : compiler.resolve source path = .error fault) :
    Arises compiler source (.path fault)
  /-- A request for a method fails. -/
  | method {request : MethodRequest} {providers : List String} {fault : MethodFault}
    (fails : request.resolve compiler.model providers = .error fault) :
    Arises compiler source (.method fault)

/-- How the faults of a computed field arise. -/
theorem arises_of_derive_error {view : String} {projection : Projection} {field : FieldDecl}
    {computation : Computation} {faults : List ViewFault}
    (fails : compiler.derive view projection field computation = .error faults) :
    ∀ fault ∈ faults, compiler.Arises projection.source fault := by
  have reducers (fields : List Field) : ∀ fault ∈ reducerFaults view field computation fields,
      compiler.Arises projection.source fault := by
    rw [reducerFaults]
    split
    · simp
    · simpa using Arises.reducerCount view field.name _ _
  obtain rfl | ⟨paths, failed, rfl⟩ | ⟨fields, -, ⟨fault, resolved, rfl⟩ | rfl⟩ :=
    derive_error_cases fails
  · simpa using Arises.noDependencies view field.name
  · refine List.forall_mem_map.mpr fun fault faulty => ?_
    obtain ⟨path, fails⟩ := resolve_of_dependencies_error failed fault faulty
    exact .path fails
  · refine List.forall_mem_append.mpr ⟨reducers fields, ?_⟩
    simpa using Arises.method resolved
  · exact reducers fields

/-- How the faults of a field arise. -/
theorem arises_of_compileField_error {view : String} {projection : Projection}
    {field : FieldDecl} {faults : List ViewFault}
    (fails : compiler.compileField view projection field = .error faults) :
    ∀ fault ∈ faults, compiler.Arises projection.source fault := by
  cases computed : field.computed with
  | none =>
    rw [compileField_copied computed] at fails
    cases found : compiler.resolve projection.source (field.path.getD field.name) with
    | ok found' => simp [found] at fails
    | error fault =>
      rw [found] at fails
      cases fails
      simpa using Arises.path found
  | some computation =>
    cases mapped : field.path with
    | some path =>
      rw [compileField_both computed mapped] at fails
      cases fails
      simpa using Arises.computedAndMapped view field.name
    | none =>
      rw [compileField_computed computed mapped] at fails
      cases derived : compiler.derive view projection field computation with
      | ok derivation => simp [derived, Except.map] at fails
      | error others =>
        rw [derived] at fails
        cases fails
        exact arises_of_derive_error derived

/-- A view that does not compile has failures, each with a fault that arises from its source. -/
theorem compile_error {view : String} {projection : Projection} {failures : List ViewFailure}
    (fails : compiler.compile view projection = .error failures) :
    failures ≠ [] ∧ ∀ failure ∈ failures, compiler.Arises projection.source failure.fault := by
  rw [compile] at fails
  split at fails
  · cases fails
    simpa using Arises.unresolvedSource view
  · dsimp only at fails
    split at fails
    · cases fails
    · next faulty =>
      cases fails
      refine ⟨by simpa using faulty, fun failure failed => ?_⟩
      obtain ⟨field, -, onField⟩ := List.mem_flatMap.mp failed
      rw [fieldFailures] at onField
      cases compiled : compiler.compileField view projection field with
      | ok result => simp [compiled] at onField
      | error faults =>
        rw [compiled] at onField
        obtain ⟨fault, faulty, rfl⟩ := List.mem_map.mp onField
        exact arises_of_compileField_error compiled fault faulty

/-- No fault of a view is the rejection of a single method. -/
theorem Arises.noRejection {source : String} {fault : ViewFault}
    (arises : compiler.Arises source fault) : fault.NoRejection := by
  cases arises with
  | path _ => exact ViewFault.noRejection_path _
  | method fails =>
    obtain ⟨-, rfl⟩ := MethodRequest.resolve_eq_error_iff.mp fails
    simp [ViewFault.NoRejection, ViewFault.remark, MethodFault.remark, MethodFault.code,
      rejectionCodes]
  | _ => simp [ViewFault.NoRejection, ViewFault.remark, rejectionCodes]

/-- A declared type is a view that compiles. -/
def compiles (compiler : ViewCompiler) (decl : TypeDecl) : Bool :=
  decl.projection.any fun projection => (compiler.compile decl.name projection).toBool

/-- The failures of a declared type, if it is a view that does not compile. -/
def failuresOf (compiler : ViewCompiler) (decl : TypeDecl) : List ViewFailure :=
  decl.projection.elim [] fun projection =>
    match compiler.compile decl.name projection with
    | .ok _ => []
    | .error failures => failures

/-- The views that do not compile, in the order of their declarations. -/
def dropped (compiler : ViewCompiler) : List TypeDecl :=
  compiler.model.views.filter fun view => !compiler.compiles view

/-- What is reported of a dropped view: its failures in order, and then that it is left out. -/
def dropReport (compiler : ViewCompiler) (view : TypeDecl) : List Diagnostic :=
  (compiler.failuresOf view).map ViewFailure.diagnostic ++
    [droppedView view.name (compiler.failuresOf view)]

/-- A view that compiles stands in the result under its name, and nothing is reported of it. -/
theorem of_compiles {decl : TypeDecl} (succeeds : compiler.compiles decl = true) :
    (∃ view, compiler.compiledView? decl = some (decl.name, view)) ∧
      compiler.viewReport decl = [] := by
  obtain ⟨projection, projects, compiled⟩ := Option.any_eq_true .. |>.mp succeeds
  cases outcome : compiler.compile decl.name projection with
  | error failures =>
    rw [outcome] at compiled
    cases compiled
  | ok view => simp [compiledView?, viewReport, projects, outcome, Except.toOption, outcomeReport]

/-- A view that does not compile is missing in the result; it has failures, each with a fault that
arises from a source, and these are reported and that it is left out. -/
theorem of_not_compiles {decl : TypeDecl} (view : decl.isView = true)
    (fails : compiler.compiles decl = false) :
    compiler.compiledView? decl = none ∧ compiler.viewReport decl = compiler.dropReport decl ∧
      compiler.failuresOf decl ≠ [] ∧
        ∀ failure ∈ compiler.failuresOf decl, ∃ source, compiler.Arises source failure.fault := by
  obtain ⟨projection, projects⟩ := Option.isSome_iff_exists.mp view
  cases outcome : compiler.compile decl.name projection with
  | ok compiled => simp [compiles, projects, outcome, Except.toBool] at fails
  | error failures =>
    have failed : compiler.failuresOf decl = failures := by simp [failuresOf, projects, outcome]
    rw [dropReport, failed]
    obtain ⟨failing, arises⟩ := compile_error outcome
    refine ⟨?_, ?_, failing, fun failure failed => ⟨projection.source, arises failure failed⟩⟩
    · simp [compiledView?, projects, outcome, Except.toOption]
    · simp [viewReport, projects, outcome, outcomeReport]

/-- The names in the result are those of the views that compile. -/
theorem compiledViews_names (decls : List TypeDecl) (views : ∀ decl ∈ decls, decl.isView = true) :
    (decls.filterMap compiler.compiledView?).map Prod.fst =
      (decls.filter compiler.compiles).map TypeDecl.name := by
  induction decls with
  | nil => rfl
  | cons decl rest ih =>
    rw [List.forall_mem_cons] at views
    cases outcome : compiler.compiles decl with
    | true =>
      obtain ⟨⟨view, compiled⟩, -⟩ := of_compiles outcome
      rw [List.filterMap_cons_some compiled, List.filter_cons_of_pos outcome, List.map_cons,
        List.map_cons, ih views.2]
    | false =>
      obtain ⟨missing, -⟩ := of_not_compiles views.1 outcome
      rw [List.filterMap_cons_none missing, List.filter_cons_of_neg (by simp [outcome]),
        ih views.2]

/-- What is reported of views is what is reported of those that do not compile. -/
theorem viewReports_eq (decls : List TypeDecl) (views : ∀ decl ∈ decls, decl.isView = true) :
    decls.flatMap compiler.viewReport =
      (decls.filter fun decl => !compiler.compiles decl).flatMap compiler.dropReport := by
  induction decls with
  | nil => rfl
  | cons decl rest ih =>
    rw [List.forall_mem_cons] at views
    cases outcome : compiler.compiles decl with
    | true =>
      obtain ⟨-, silent⟩ := of_compiles outcome
      rw [List.flatMap_cons, silent, List.filter_cons_of_neg (by simp [outcome]), ih views.2]
      rfl
    | false =>
      obtain ⟨-, reported, -⟩ := of_not_compiles views.1 outcome
      rw [List.flatMap_cons, reported, List.filter_cons_of_pos (by simp [outcome]),
        List.flatMap_cons, ih views.2]

/-- A dropped view has failures, each with a fault that arises from a source. -/
theorem dropped_fails {view : TypeDecl} (dropped : view ∈ compiler.dropped) :
    compiler.failuresOf view ≠ [] ∧
      ∀ failure ∈ compiler.failuresOf view, ∃ source, compiler.Arises source failure.fault := by
  obtain ⟨listed, fails⟩ := List.mem_filter.mp dropped
  have view : view.isView = true := (List.mem_filter.mp listed).2
  exact (of_not_compiles view (by simpa using fails)).2.2

/-- Each view compiles or is dropped. -/
theorem length_views (compiler : ViewCompiler) :
    compiler.model.views.length =
      (compiler.model.views.filter compiler.compiles).length + compiler.dropped.length :=
  List.length_eq_length_filter_add compiler.compiles

/-- There are failures exactly when a view was dropped. -/
theorem failureCount_ne_zero_iff (compiler : ViewCompiler) :
    (compiler.dropped.map fun view => (compiler.failuresOf view).length).sum ≠ 0 ↔
      compiler.dropped ≠ [] := by
  have failures : ∀ view ∈ compiler.dropped, compiler.failuresOf view ≠ [] :=
    fun view dropped => (dropped_fails dropped).1
  cases listed : compiler.dropped with
  | nil => simp
  | cons view rest =>
    have nonempty : compiler.failuresOf view ≠ [] := failures view (listed ▸ List.mem_cons_self)
    have positive := List.length_pos_iff.mpr nonempty
    simp only [List.map_cons, List.sum_cons, ne_eq, reduceCtorEq, not_false_eq_true, iff_true]
    omega

/-- A dropped view has as many errors as failures. -/
theorem dropReport_errors (decl : TypeDecl) :
    (compiler.dropReport decl).countP (·.severity == .error) =
      (compiler.failuresOf decl).length := by
  have failures : ((compiler.failuresOf decl).map ViewFailure.diagnostic).countP
      (·.severity == .error) = (compiler.failuresOf decl).length := by
    rw [List.countP_map, List.countP_eq_length]
    intro failure _
    exact beq_iff_eq.mpr failure.fault.severity_eq_error
  rw [dropReport, List.countP_append, failures]
  rfl

/-- No warnings are reported of a dropped view. -/
theorem dropReport_warnings (decl : TypeDecl) :
    (compiler.dropReport decl).countP (·.severity == .warning) = 0 := by
  rw [List.countP_eq_zero]
  intro item reported
  obtain reported | noted := List.mem_append.mp reported
  · obtain ⟨failure, -, rfl⟩ := List.mem_map.mp reported
    have severity : failure.diagnostic.severity = .error := failure.fault.severity_eq_error
    simp [severity]
  · rw [List.mem_singleton.mp noted]
    exact Bool.false_ne_true

/-- A dropped view is noted once. -/
theorem dropReport_notes (decl : TypeDecl) :
    (compiler.dropReport decl).countP (·.code == .viewDropped) = 1 := by
  have failures : ((compiler.failuresOf decl).map ViewFailure.diagnostic).countP
      (·.code == .viewDropped) = 0 := by
    rw [List.countP_map, List.countP_eq_zero]
    intro failure _ noted
    have severity := failure.fault.severity_eq_error
    rw [show failure.fault.remark.code = .viewDropped from beq_iff_eq.mp noted] at severity
    cases severity
  rw [dropReport, List.countP_append, failures]
  rfl

end ViewCompiler

namespace Finding

/-- A finding on an embedded field is an error, and no other finding is. -/
theorem severity_eq_error (finding : Finding) :
    (finding.diagnostic.severity == .error) = (finding.code == .notAValueObject) := by
  cases finding <;> rfl

/-- A finding on identifiers is a warning, and no other finding is. -/
theorem severity_eq_warning (finding : Finding) :
    (finding.diagnostic.severity == .warning) =
      (finding.code == .missingIdentifier || finding.code == .duplicateIdentifier) := by
  cases finding <;> rfl

/-- A finding is not the note on a view. -/
theorem code_ne_viewDropped (finding : Finding) :
    (finding.diagnostic.code == .viewDropped) = false := by
  cases finding <;> rfl

end Finding

namespace Command

/-- A program that writes no file ends as it says. -/
theorem performFrom_finish {steps : List Step} (writesNothing : ∀ path content,
    .write path content ∉ steps) (working : List String) (outcome : Outcome) :
    (performFrom working outcome steps).finish = outcome.finish := by
  induction steps generalizing outcome with
  | nil => rfl
  | cons step rest ih =>
    have rest : ∀ path content, .write path content ∉ rest := fun path content later =>
      writesNothing path content (List.mem_cons_of_mem _ later)
    cases step with
    | print text => exact ih rest _
    | warn text => exact ih rest _
    | write path content => exact absurd List.mem_cons_self (writesNothing path content)

/-- A check that is not strict fails exactly when there are errors. -/
theorem check_code (directory : String) (model : Model) (compilation : Compilation)
    (tree : FileTree) (working : List String) :
    ((check false directory model compilation).perform tree working).code =
      if compilation.hasErrors then 1 else 0 := by
  have writesNothing : ∀ path content,
      .write path content ∉ (check false directory model compilation).steps := by
    intro path content
    rw [check]
    split <;> simp [say, diagnosticStep]
  rw [Outcome.code, Program.perform, performFrom_finish writesNothing, check]
  cases errors : compilation.diagnostics.hasErrors <;>
    simp [Compilation.hasErrors, errors]

end Command

namespace Compilation

/-- The compiled views and the diagnostics of a compilation account for every declared view. -/
structure Accounts (compilation : Compilation) (compiler : ViewCompiler)
    (findings : List Finding) : Prop where
  /-- The names in the result are those of the views that compile, in the order of their
  declarations. -/
  compiled : compilation.views.map Prod.fst =
    (compiler.model.views.filter compiler.compiles).map TypeDecl.name
  /-- Each name stands once in the result. -/
  unique : (compilation.views.map Prod.fst).Nodup
  /-- The findings are reported, and then for each dropped view its failures in order and that it
  is left out. -/
  reported : compilation.diagnostics.items =
    findings.map Finding.diagnostic ++ compiler.dropped.flatMap fun view =>
      (compiler.failuresOf view).map ViewFailure.diagnostic ++
        [droppedView view.name (compiler.failuresOf view)]
  /-- A dropped view has failures, and all of them are errors. -/
  failures : ∀ view ∈ compiler.dropped, compiler.failuresOf view ≠ [] ∧
    ∀ failure ∈ compiler.failuresOf view, failure.diagnostic.severity = .error
  /-- That a view is left out is a note on the view. -/
  note : ∀ view ∈ compiler.dropped,
    let note := droppedView view.name (compiler.failuresOf view)
    note.element = view.name ∧ note.code = .viewDropped ∧ note.severity = .note
  /-- Each declared view is in the result or noted as left out. -/
  viewCount : compiler.model.views.length =
    compilation.views.length + (compilation.diagnostics.ofCode .viewDropped).length
  /-- The warnings are the findings on identifiers. -/
  warningCount : compilation.diagnostics.warnings.length =
    findings.countP fun finding =>
      finding.code == .missingIdentifier || finding.code == .duplicateIdentifier
  /-- The errors are the findings on embedded fields and the failures of the views. -/
  errorCount : compilation.diagnostics.errors.length =
    (findings.countP fun finding => finding.code == .notAValueObject) +
      (compiler.dropped.map fun view => (compiler.failuresOf view).length).sum
  /-- No diagnostic has the code of what is wrong with a single method. -/
  codes : ∀ item ∈ compilation.diagnostics.items,
    item.code ≠ .returnType ∧ item.code ≠ .parameterCount ∧ item.code ≠ .parameterType
  /-- There are errors exactly when a view was dropped or an embedded field is no value object. -/
  hasErrors : compilation.hasErrors = true ↔
    compiler.dropped ≠ [] ∨ ∃ finding ∈ findings, finding.code = .notAValueObject

variable (settings : CompilerSettings) (model : Model)

/-- The names in the result are those of the views that compile. -/
theorem run_names : (run settings model).views.map Prod.fst =
    (model.views.filter
      (settings.viewCompiler model (run settings model).schema).compiles).map TypeDecl.name := by
  rw [run_views, ViewCompiler.compiledViews_names]
  exact fun _ listed => (List.mem_filter.mp listed).2

/-- Each name stands once in the result, since types are declared once. -/
theorem run_names_nodup : ((run settings model).views.map Prod.fst).Nodup := by
  rw [run_names]
  refine model.unique.sublist (List.Sublist.map _ ?_)
  exact List.filter_sublist.trans List.filter_sublist

/-- The findings are reported, and then the dropped views. -/
theorem run_reported : (run settings model).diagnostics.items =
    (discoverSchema settings model model.sources).2.map Finding.diagnostic ++
      (settings.viewCompiler model (run settings model).schema).dropped.flatMap
        (settings.viewCompiler model (run settings model).schema).dropReport := by
  rw [run_diagnostics, ViewCompiler.viewReports_eq]
  · rfl
  · exact fun _ listed => (List.mem_filter.mp listed).2

/-- What is counted of a compilation is counted of the findings and of each dropped view. -/
theorem run_countP (counts : Diagnostic → Bool) :
    (run settings model).diagnostics.items.countP counts =
      ((discoverSchema settings model model.sources).2.countP fun finding =>
        counts finding.diagnostic) +
      ((settings.viewCompiler model (run settings model).schema).dropped.map fun view =>
        ((settings.viewCompiler model (run settings model).schema).dropReport view).countP
          counts).sum := by
  rw [run_reported, List.countP_append, List.countP_map, List.countP_flatMap]
  rfl

/-- Each declared view is in the result or noted as left out. -/
theorem run_viewCount : model.views.length = (run settings model).views.length +
    ((run settings model).diagnostics.ofCode .viewDropped).length := by
  have compiled := congrArg List.length (run_names settings model)
  rw [List.length_map, List.length_map] at compiled
  have partition := (settings.viewCompiler model (run settings model).schema).length_views
  have noted : ((run settings model).diagnostics.ofCode .viewDropped).length =
      (settings.viewCompiler model (run settings model).schema).dropped.length := by
    rw [Diagnostics.ofCode, ← List.countP_eq_length_filter, run_countP]
    simp [Finding.code_ne_viewDropped, ViewCompiler.dropReport_notes]
  rw [compiled, noted]
  exact partition

/-- The warnings are the findings on identifiers. -/
theorem run_warningCount : (run settings model).diagnostics.warnings.length =
    (discoverSchema settings model model.sources).2.countP fun finding =>
      finding.code == .missingIdentifier || finding.code == .duplicateIdentifier := by
  rw [Diagnostics.warnings, Diagnostics.ofSeverity, ← List.countP_eq_length_filter, run_countP]
  simp [Finding.severity_eq_warning, ViewCompiler.dropReport_warnings]

/-- The errors are the findings on embedded fields and the failures of the views. -/
theorem run_errorCount : (run settings model).diagnostics.errors.length =
    ((discoverSchema settings model model.sources).2.countP fun finding =>
      finding.code == .notAValueObject) +
    ((settings.viewCompiler model (run settings model).schema).dropped.map fun view =>
      ((settings.viewCompiler model (run settings model).schema).failuresOf view).length).sum := by
  rw [Diagnostics.errors, Diagnostics.ofSeverity, ← List.countP_eq_length_filter, run_countP]
  simp only [Finding.severity_eq_error, ViewCompiler.dropReport_errors]

/-- A diagnostic is on a finding, on a failure of a view with a fault that arises from a source, or
notes that a view is left out. -/
theorem mem_run_diagnostics_cases {item : Diagnostic}
    (reported : item ∈ (run settings model).diagnostics.items) :
    (∃ finding ∈ (discoverSchema settings model model.sources).2, item = finding.diagnostic) ∨
      (∃ failure : ViewFailure, item = failure.diagnostic ∧
        ∃ source, (settings.viewCompiler model (run settings model).schema).Arises source
          failure.fault) ∨
      ∃ view failures, item = droppedView view failures := by
  rw [run_reported, List.mem_append] at reported
  obtain reported | reported := reported
  · obtain ⟨finding, found, rfl⟩ := List.mem_map.mp reported
    exact .inl ⟨finding, found, rfl⟩
  · obtain ⟨view, dropped, reported⟩ := List.mem_flatMap.mp reported
    obtain listed | noted := List.mem_append.mp reported
    · obtain ⟨failure, failed, rfl⟩ := List.mem_map.mp listed
      exact .inr (.inl ⟨failure, rfl, (ViewCompiler.dropped_fails dropped).2 failure failed⟩)
    · exact .inr (.inr ⟨_, _, List.mem_singleton.mp noted⟩)

/-- No diagnostic has the code of what is wrong with a single method. -/
theorem run_codes : ∀ item ∈ (run settings model).diagnostics.items,
    item.code ∉ rejectionCodes := by
  intro item reported
  obtain ⟨finding, -, rfl⟩ | ⟨failure, rfl, source, arises⟩ | ⟨view, failures, rfl⟩ :=
    mem_run_diagnostics_cases settings model reported
  · exact finding.code_not_mem_rejectionCodes
  · exact arises.noRejection
  · simp [droppedView, Diagnostic.about, rejectionCodes]

/-- There are errors exactly when a view was dropped or an embedded field is no value object. -/
theorem run_hasErrors_iff : (run settings model).hasErrors = true ↔
    (settings.viewCompiler model (run settings model).schema).dropped ≠ [] ∨
      ∃ finding ∈ (discoverSchema settings model model.sources).2,
        finding.code = .notAValueObject := by
  have counted := run_errorCount settings model
  rw [← ViewCompiler.failureCount_ne_zero_iff]
  have embedded : (discoverSchema settings model model.sources).2.countP
      (fun finding => finding.code == .notAValueObject) ≠ 0 ↔
        ∃ finding ∈ (discoverSchema settings model model.sources).2,
          finding.code = .notAValueObject := by
    simp [List.countP_eq_zero]
  rw [← embedded, hasErrors, Diagnostics.hasErrors, Bool.not_eq_true', List.isEmpty_eq_false_iff,
    ← List.length_pos_iff, counted]
  omega

/-- A compilation accounts for every declared view, with the findings on the schema of all
sources. The findings of the first sources come first. A check that is not strict exits with a
failure exactly when a view was dropped or an embedded field is no value object. -/
theorem run_accounts (settings : CompilerSettings) (model : Model) :
    let compilation := run settings model
    let compiler := settings.viewCompiler model compilation.schema
    let findings := (discoverSchema settings model model.sources).2
    compilation.Accounts compiler findings ∧
      (∀ roots, roots <+: model.sources → (discoverSchema settings model roots).2 <+: findings) ∧
        ∀ directory tree working,
          ((Command.check false directory model compilation).perform tree working).code ≠ 0 ↔
            compiler.dropped ≠ [] ∨ ∃ finding ∈ findings, finding.code = .notAValueObject := by
  intro compilation compiler findings
  have errors : compilation.hasErrors = true ↔
      compiler.dropped ≠ [] ∨ ∃ finding ∈ findings, finding.code = .notAValueObject :=
    run_hasErrors_iff settings model
  refine ⟨?_, fun roots => discoverSchema_findings_prefix settings model,
    fun directory tree working => ?_⟩
  · constructor
    case compiled => exact run_names settings model
    case unique => exact run_names_nodup settings model
    case reported => exact run_reported settings model
    case failures =>
      intro view dropped
      exact ⟨(ViewCompiler.dropped_fails dropped).1,
        fun failure _ => failure.fault.severity_eq_error⟩
    case note => exact fun view _ => ⟨rfl, rfl, rfl⟩
    case viewCount => exact run_viewCount settings model
    case warningCount => exact run_warningCount settings model
    case errorCount => exact run_errorCount settings model
    case codes =>
      intro item reported
      simpa [rejectionCodes] using run_codes settings model item reported
    case hasErrors => exact errors
  · rw [Command.check_code, ← errors]
    cases compilation.hasErrors <;> simp

end Compilation

end SchemaProjection
