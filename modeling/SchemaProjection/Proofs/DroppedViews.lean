import Mathlib.Algebra.BigOperators.Group.List.Basic
import SchemaProjection.Proofs.FieldFailures
import SchemaProjection.Proofs.WalkedPaths

/-!
# What the note on a dropped view counts

Each dropped view is noted once, with a number that the note calls the number of unresolved fields.
It is the number of failures. A view whose source is not registered has one failure and no
unresolved field. In any other view each unresolved field counts as often as it fails, so the note
is right exactly if no field fails more than once (`ViewCompiler.CountsFailures`); a computed field
does if several dependencies lead nowhere, or if it lacks both reducers and a method
(`ViewCompiler.FailsRepeatedly`).
-/
namespace SchemaProjection

namespace ViewCompiler

variable {compiler : ViewCompiler} {view : String} {projection : Projection} {field : FieldDecl}

/-- The mapped fields of a view of which some failure is told. -/
def unresolvedFields (compiler : ViewCompiler) (view : TypeDecl) : List FieldDecl :=
  (compiler.model.mappedFields view.name).filter fun field =>
    (compiler.failuresOf view).any fun failure => failure.element == view.name ++ "." ++ field.name

/-- A computed field fails more than once. -/
inductive FailsRepeatedly (compiler : ViewCompiler) (view : String) (projection : Projection)
    (field : FieldDecl) : Prop
  /-- Several dependencies lead nowhere. -/
  | astray {computation : Computation} (unmapped : field.path = none)
    (computed : field.computed = some computation)
    (several : 1 < (computation.dependencies.filterMap (compiler.fault? projection.source)).length)
  /-- All dependencies lead to fields, but the reducers are not as many as the collections among
  these, and no candidate has the method. -/
  | unreduced {computation : Computation} {fields : List Field} (unmapped : field.path = none)
    (computed : field.computed = some computation) (nonempty : computation.dependencies ≠ [])
    (leads : compiler.Leads projection.source computation.dependencies fields)
    (reducers : computation.reducers.length ≠ (fields.filter Field.isCollection).length)
    (unprovided : ∀ candidate ∈ candidates projection field,
      ¬(compiler.request view field computation fields).ProvidedBy compiler.model candidate)

/-- How the number of failures of a view is the number of its unresolved fields or is not. -/
structure CountsFailures (compiler : ViewCompiler) (view : TypeDecl) (projection : Projection) :
    Prop where
  /-- A source that is not registered is one failure, and of no field. -/
  unregistered : compiler.registry.contains projection.source = false →
    (compiler.failuresOf view).length = 1 ∧ compiler.unresolvedFields view = []
  /-- The unresolved fields of a view of a registered source are those that are not well-formed. -/
  unresolved : compiler.registry.contains projection.source = true →
    ∀ field, field ∈ compiler.unresolvedFields view ↔
      field ∈ compiler.model.mappedFields view.name ∧ ¬compiler.WellFormed projection field
  /-- The failures of a view of a registered source are those of its unresolved fields. -/
  registered : compiler.registry.contains projection.source = true →
    (compiler.failuresOf view).length = ((compiler.unresolvedFields view).map fun field =>
      (compiler.fieldFailures view.name projection field).length).sum
  /-- A view has at least as many failures as unresolved fields. -/
  atLeast : (compiler.unresolvedFields view).length ≤ (compiler.failuresOf view).length
  /-- A view has as many failures as unresolved fields exactly if its source is registered and no
  field fails more than once. -/
  exactly : (compiler.failuresOf view).length = (compiler.unresolvedFields view).length ↔
    compiler.registry.contains projection.source = true ∧
      ∀ field ∈ compiler.model.mappedFields view.name,
        ¬compiler.FailsRepeatedly view.name projection field

/-- A failure of a field is told of the view and the field. -/
theorem element_of_mem_fieldFailures {failure : ViewFailure}
    (fails : failure ∈ compiler.fieldFailures view projection field) :
    failure.element = view ++ "." ++ field.name := by
  obtain ⟨faults, -, same⟩ := exists_contributes compiler view projection field
  rw [same] at fails
  obtain ⟨fault, -, rfl⟩ := List.mem_map.mp fails
  rfl

/-- Reducers are one fault, or none if there are as many as collections. -/
theorem length_reducerFaults (view : String) (field : FieldDecl) (computation : Computation)
    (fields : List Field) :
    (reducerFaults view field computation fields).length =
      if computation.reducers.length = (fields.filter Field.isCollection).length then 0 else 1 := by
  rw [reducerFaults]
  split <;> rfl

/-- Paths lead to one list of fields. -/
theorem Leads.unique {source : String} {paths : List String} {fields others : List Field}
    (leads : compiler.Leads source paths fields) (again : compiler.Leads source paths others) :
    fields = others :=
  Except.ok.inj ((dependencies_eq_ok_iff.mpr leads).symm.trans (dependencies_eq_ok_iff.mpr again))

/-- Of paths that lead to fields none is astray. -/
theorem Leads.faults {source : String} {paths : List String} {fields : List Field}
    (leads : compiler.Leads source paths fields) :
    paths.filterMap (compiler.fault? source) = [] := by
  by_contra faulty
  cases (dependencies_eq_ok_iff.mpr leads).symm.trans (dependencies_eq_error_iff.mpr ⟨rfl, faulty⟩)

/-- A field fails more than once exactly if it is computed and several dependencies lead nowhere,
or all lead to fields and it lacks both reducers and a method. -/
theorem one_lt_length_fieldFailures_iff :
    1 < (compiler.fieldFailures view projection field).length ↔
      compiler.FailsRepeatedly view projection field := by
  obtain ⟨faults, contributes, told⟩ := exists_contributes compiler view projection field
  rw [told, List.length_map]
  constructor
  · intro several
    cases contributes with
    | both | astray | independent => simp at several
    | copied => simp at several
    | unresolved unmapped computed fail _ =>
      rw [List.length_map, ← fail] at several
      exact .astray unmapped computed several
    | provided =>
      rw [length_reducerFaults] at several
      split at several <;> omega
    | unprovided unmapped computed nonempty leads asks unprovided =>
      rw [List.length_append, length_reducerFaults] at several
      refine .unreduced unmapped computed nonempty leads (fun reduced => ?_) (asks ▸ unprovided)
      rw [if_pos reduced] at several
      simp at several
  · rintro (⟨unmapped, computed, several⟩ |
      ⟨unmapped, computed, nonempty, leads, reducers, unprovided⟩)
    · cases contributes with
      | both mapped _ => cases unmapped.symm.trans mapped
      | copied plain _ | astray plain _ => cases computed.symm.trans plain
      | independent _ again independent =>
        cases computed.symm.trans again
        simp [independent] at several
      | unresolved _ again fail _ =>
        cases computed.symm.trans again
        rwa [List.length_map, ← fail]
      | provided _ again _ leads _ | unprovided _ again _ leads _ _ =>
        cases computed.symm.trans again
        simp [leads.faults] at several
    · cases contributes with
      | both mapped _ => cases unmapped.symm.trans mapped
      | copied plain _ | astray plain _ => cases computed.symm.trans plain
      | independent _ again independent =>
        cases computed.symm.trans again
        exact absurd independent nonempty
      | unresolved _ again fail failing =>
        cases computed.symm.trans again
        exact absurd (fail.symm.trans leads.faults) failing
      | provided _ again _ same provided =>
        cases computed.symm.trans again
        cases leads.unique same
        obtain ⟨candidate, tried, provides⟩ := provided
        exact absurd provides (unprovided candidate tried)
      | unprovided _ again _ same _ _ =>
        cases computed.symm.trans again
        cases leads.unique same
        simp [length_reducerFaults, reducers]

/-- A computed field with dependencies that are astray fails once for each of them. -/
theorem fieldFailures_of_astray {computation : Computation} (unmapped : field.path = none)
    (computed : field.computed = some computation)
    (astray : computation.dependencies.filterMap (compiler.fault? projection.source) ≠ []) :
    compiler.fieldFailures view projection field =
      (computation.dependencies.filterMap (compiler.fault? projection.source)).map
        fun fault => .ofField view field.name (.path fault) := by
  have nonempty : ¬computation.dependencies.isEmpty = true := by
    intro empty
    rw [List.isEmpty_iff.mp empty] at astray
    exact astray rfl
  have fails := dependencies_eq_error_iff.mpr ⟨rfl, astray⟩
  rw [fieldFailures, compileField_computed computed unmapped, derive, if_neg nonempty, fails]
  exact List.map_map

/-- Counts of at least one make up their number exactly if none is greater. -/
theorem sum_eq_length_iff {counts : List Nat} (positive : ∀ count ∈ counts, 1 ≤ count) :
    counts.sum = counts.length ↔ ∀ count ∈ counts, ¬1 < count := by
  induction counts with
  | nil => simp
  | cons count rest ih =>
    obtain ⟨first, rest⟩ := List.forall_mem_cons.mp positive
    have others := List.length_le_sum_of_one_le _ rest
    rw [List.forall_mem_cons, ← ih rest, List.sum_cons, List.length_cons]
    omega

/-- Values for which nothing is listed may be left out of what is listed. -/
theorem flatMap_filter_some {α β : Type} (tell : α → List β) (values : List α) :
    (values.filter fun value => !(tell value).isEmpty).flatMap tell = values.flatMap tell := by
  induction values with
  | nil => rfl
  | cons value rest ih =>
    rw [List.filter_cons, List.flatMap_cons, ← ih]
    cases told : tell value <;> simp [told]

/-- What a view of a registered source fails with. -/
theorem failuresOf_eq {view : TypeDecl} (projects : view.projection = some projection)
    (registered : compiler.registry.contains projection.source = true) :
    compiler.failuresOf view = (compiler.model.mappedFields view.name).flatMap
      (compiler.fieldFailures view.name projection) := by
  rw [failuresOf, projects]
  exact failures_eq registered

/-- The unresolved fields of a view of a registered source are those that fail. -/
theorem unresolvedFields_eq {view : TypeDecl} (projects : view.projection = some projection)
    (registered : compiler.registry.contains projection.source = true) :
    compiler.unresolvedFields view = (compiler.model.mappedFields view.name).filter fun field =>
      !(compiler.fieldFailures view.name projection field).isEmpty := by
  rw [unresolvedFields]
  refine List.filter_congr fun field mapped => ?_
  rw [Bool.eq_iff_iff]
  simp only [List.any_eq_true, beq_iff_eq, Bool.not_eq_true', List.isEmpty_eq_false_iff_exists_mem,
    failuresOf_eq projects registered, List.mem_flatMap]
  constructor
  · rintro ⟨failure, ⟨other, mappedToo, fails⟩, told⟩
    rw [element_of_mem_fieldFailures fails, String.append_right_inj] at told
    obtain rfl := List.inj_on_of_nodup_map (Model.closest_names_nodup _) mappedToo mapped told
    exact ⟨failure, fails⟩
  · rintro ⟨failure, fails⟩
    exact ⟨failure, ⟨field, mapped, fails⟩, element_of_mem_fieldFailures fails⟩

/-- The number of failures of a view of a registered source. -/
theorem length_failuresOf {view : TypeDecl} (projects : view.projection = some projection)
    (registered : compiler.registry.contains projection.source = true) :
    (compiler.failuresOf view).length = ((compiler.unresolvedFields view).map fun field =>
      (compiler.fieldFailures view.name projection field).length).sum := by
  rw [failuresOf_eq projects registered, unresolvedFields_eq projects registered,
    ← List.length_flatMap, flatMap_filter_some]

/-- A view whose source is not registered fails for that alone. -/
theorem failuresOf_unregistered {view : TypeDecl} (projects : view.projection = some projection)
    (unregistered : compiler.registry.contains projection.source = false) :
    compiler.failuresOf view =
      [⟨view.name, .unresolvedSource view.name projection.source⟩] := by
  simp [failuresOf, projects, compile, unregistered]

/-- A view whose source is not registered has no unresolved fields. -/
theorem unresolvedFields_unregistered {view : TypeDecl}
    (projects : view.projection = some projection)
    (unregistered : compiler.registry.contains projection.source = false) :
    compiler.unresolvedFields view = [] := by
  rw [unresolvedFields, failuresOf_unregistered projects unregistered, List.filter_eq_nil_iff]
  intro field _ told
  have same : view.name = view.name ++ "." ++ field.name := by simpa using told
  have length := congrArg String.length same
  simp only [String.length_append] at length
  have dot : ".".length = 1 := rfl
  omega

/-- A view with failures does not compile. -/
theorem compiles_eq_false_of_failures {decl : TypeDecl} (fails : compiler.failuresOf decl ≠ []) :
    compiler.compiles decl = false := by
  rw [failuresOf] at fails
  rw [compiles]
  cases projects : decl.projection with
  | none => rfl
  | some projection =>
    rw [projects] at fails
    cases outcome : compiler.compile decl.name projection with
    | ok view => simp [outcome] at fails
    | error failures => simp [outcome, Except.toBool]

/-- How the number of failures of a view and the number of its unresolved fields are related. -/
theorem countsFailures {view : TypeDecl} (projects : view.projection = some projection) :
    compiler.CountsFailures view projection := by
  cases registered : compiler.registry.contains projection.source with
  | false =>
    have failures := failuresOf_unregistered projects registered
    have unresolved := unresolvedFields_unregistered projects registered
    constructor <;> simp [failures, unresolved, registered]
  | true =>
    have counted := length_failuresOf projects registered
    have unresolved : ∀ field, field ∈ compiler.unresolvedFields view ↔
        field ∈ compiler.model.mappedFields view.name ∧
          compiler.fieldFailures view.name projection field ≠ [] := by
      simp [unresolvedFields_eq projects registered]
    have positive : ∀ count ∈ (compiler.unresolvedFields view).map fun field =>
        (compiler.fieldFailures view.name projection field).length, 1 ≤ count := by
      rw [List.forall_mem_map]
      exact fun field listed => List.length_pos_iff.mpr ((unresolved field).mp listed).2
    refine ⟨fun unregistered => by simp [registered] at unregistered, fun _ field => ?_,
      fun _ => counted, ?_, ?_⟩
    · rw [unresolved, ne_eq, fieldFailures_eq_nil_iff]
    · rw [counted]
      simpa using List.length_le_sum_of_one_le _ positive
    · have once := sum_eq_length_iff positive
      rw [List.length_map, ← counted, List.forall_mem_map] at once
      rw [once]
      simp only [unresolved, one_lt_length_fieldFailures_iff]
      constructor
      · intro apart
        refine ⟨registered, fun field mapped repeatedly => ?_⟩
        have several := one_lt_length_fieldFailures_iff.mpr repeatedly
        exact apart field ⟨mapped, List.ne_nil_of_length_pos (by omega)⟩ repeatedly
      · rintro ⟨-, apart⟩ field ⟨mapped, -⟩
        exact apart field mapped

/-- Of what is reported of a dropped view one item is the note. -/
theorem filter_dropReport (view : TypeDecl) :
    (compiler.dropReport view).filter (·.code == .viewDropped) =
      [droppedView view.name (compiler.failuresOf view)] := by
  have failures : ((compiler.failuresOf view).map ViewFailure.diagnostic).filter
      (·.code == .viewDropped) = [] := by
    rw [List.filter_eq_nil_iff]
    intro item listed noted
    obtain ⟨failure, -, rfl⟩ := List.mem_map.mp listed
    have severity := failure.fault.severity_eq_error
    rw [show failure.fault.remark.code = .viewDropped from beq_iff_eq.mp noted] at severity
    cases severity
  rw [dropReport, List.filter_append, failures]
  rfl

end ViewCompiler

namespace Compilation

/-- Each dropped view is noted once, in the order of the declarations, with its number of
failures. -/
theorem run_notes (settings : CompilerSettings) (model : Model) :
    let compiler := settings.viewCompiler model (run settings model).schema
    (run settings model).diagnostics.ofCode .viewDropped =
      compiler.dropped.map fun view => droppedView view.name (compiler.failuresOf view) := by
  intro compiler
  have findings : ((discoverSchema settings model model.sources).2.map Finding.diagnostic).filter
      (·.code == .viewDropped) = [] := by
    rw [List.filter_eq_nil_iff, List.forall_mem_map]
    intro finding _
    rw [finding.code_ne_viewDropped]
    exact Bool.false_ne_true
  rw [Diagnostics.ofCode, run_reported, List.filter_append, findings, List.nil_append,
    List.filter_flatMap, List.map_eq_flatMap]
  exact List.flatMap_congr fun view _ => ViewCompiler.filter_dropReport view

/-- Each dropped view is noted once, in the order of the declarations, and the note speaks of as
many unresolved fields as the view has failures. These are as many as its unresolved fields exactly
if its source is registered and no field of it fails more than once. -/
theorem run_notes_countFailures (settings : CompilerSettings) (model : Model) :
    let compilation := run settings model
    let compiler := settings.viewCompiler model compilation.schema
    (compilation.diagnostics.ofCode .viewDropped = compiler.dropped.map fun view =>
        .about view.name ⟨.viewDropped, "View " ++ view.name ++ " excluded from output: " ++
          toString (compiler.failuresOf view).length ++ " unresolved field(s)", []⟩) ∧
      ∀ view ∈ compiler.dropped, ∃ projection,
        view.projection = some projection ∧ compiler.CountsFailures view projection := by
  intro compilation compiler
  refine ⟨run_notes settings model, fun view dropped => ?_⟩
  have listed : view ∈ model.views := List.mem_of_mem_filter dropped
  obtain ⟨-, projection, projects⟩ := Model.mem_views_iff.mp listed
  exact ⟨projection, projects, ViewCompiler.countsFailures projects⟩

/-- A view of an order with one field, which is computed from two fields that orders do not have. -/
def orderRatio : TypeDecl :=
  { plainType "OrderRatio" with
    projection := some ⟨"Order", []⟩
    fields :=
      [{ plainField "ratio" (.named "double") with computed := some ⟨["net", "gross"], []⟩ }] }

/-- Orders and the view of their ratios. -/
def ratios : Model := ⟨[order, orderRatio], by decide, none⟩

/-- The view of ratios has one unresolved field, and the note on it speaks of two. -/
theorem orderRatio_miscounted :
    let compilation := run .standard ratios
    let compiler := CompilerSettings.standard.viewCompiler ratios compilation.schema
    ratios.mappedFields "OrderRatio" = orderRatio.fields ∧
      compiler.unresolvedFields orderRatio = orderRatio.fields ∧ orderRatio.fields.length = 1 ∧
      compilation.diagnostics.ofCode .viewDropped =
        [.about "OrderRatio" ⟨.viewDropped,
          "View OrderRatio excluded from output: 2 unresolved field(s)", []⟩] := by
  intro compilation compiler
  have mapped : ratios.mappedFields orderRatio.name = orderRatio.fields := by
    have ancestry : ratios.ancestry orderRatio.name = [orderRatio] :=
      Model.ancestry_of_parentless rfl rfl
    rw [Model.mappedFields, Model.effectiveFields, ancestry]
    rfl
  have astray : ∀ path ∈ ["net", "gross"], ∃ fault, compiler.fault? "Order" path = some fault := by
    intro path listed
    have single : Text.segments path = [path] := by
      revert path
      decide
    rw [ViewCompiler.fault?, Navigation.resolve, single]
    dsimp only
    cases found : compiler.follow path "Order" path [] with
    | error fault => exact ⟨fault, rfl⟩
    | ok field =>
      obtain ⟨fields, looked, entry⟩ := Navigation.fieldAt_eq_ok_iff.mp found
      obtain ⟨-, rfl⟩ :=
        (discoverSchema_lookup_eq_some_iff .standard ratios ratios.sources).mp looked
      obtain ⟨decl, declared, field, held, rfl⟩ :=
        Classifier.exists_declared_of_mem_fieldsOf entry
      have others : ∀ decl ∈ ratios.types, ∀ field ∈ decl.fields,
          field.name ∉ ["net", "gross"] := by decide
      exact absurd listed (others decl declared field held)
  obtain ⟨net, netAstray⟩ := astray "net" (by simp)
  obtain ⟨gross, grossAstray⟩ := astray "gross" (by simp)
  have faults : ["net", "gross"].filterMap (compiler.fault? "Order") = [net, gross] := by
    simp [netAstray, grossAstray]
  have registered : compiler.registry.contains "Order" = true :=
    (discoverSchema_contains_iff .standard ratios ratios.sources "Order").mpr
      (Classifier.reachable_root (by decide) (.inl (by decide)))
  have failures : compiler.failuresOf orderRatio =
      [⟨"OrderRatio.ratio", .path net⟩, ⟨"OrderRatio.ratio", .path gross⟩] := by
    rw [ViewCompiler.failuresOf_eq rfl registered]
    change (ratios.mappedFields orderRatio.name).flatMap _ = _
    rw [mapped]
    change (compiler.fieldFailures "OrderRatio" ⟨"Order", []⟩ _) ++ [] = _
    rw [ViewCompiler.fieldFailures_of_astray rfl rfl (by simp [faults]), faults]
    rfl
  have dropped : compiler.dropped = [orderRatio] := by
    have views : compiler.model.views = [orderRatio] := rfl
    have fails : compiler.compiles orderRatio = false :=
      ViewCompiler.compiles_eq_false_of_failures (by simp [failures])
    rw [ViewCompiler.dropped, views, List.filter_cons_of_pos (by simp [fails]), List.filter_nil]
  refine ⟨mapped, ?_, rfl, ?_⟩
  · rw [ViewCompiler.unresolvedFields, failures]
    change (ratios.mappedFields orderRatio.name).filter _ = _
    rw [mapped]
    rfl
  · rw [run_notes]
    change (compiler.dropped.map fun view => droppedView view.name (compiler.failuresOf view)) = _
    rw [dropped, List.map_singleton, failures]
    simp only [droppedView, List.length_cons, List.length_nil]
    decide

end Compilation

end SchemaProjection
