import SchemaProjection.Proofs.Accounting
import SchemaProjection.Proofs.Amendment

/-!
# Failures field by field

All fields of a view are tried, and a view fails with what its fields fail with one after the
other. What a field contributes is told by its own declaration (`ViewCompiler.Contributes`): it
cannot be both computed and copied; a copied field fails as its path does; and a computed field
needs dependencies, then fields that all of them lead to, and then both as many reducers as
collections and a method. The other fields of the view have no part in it: neither models that
declare other fields change it (`Model.SameButFields`), nor does the view have other failures when
it has the field alone (`ViewCompiler.narrowed`).
-/
namespace SchemaProjection

/-- A declaration without its fields. -/
def TypeDecl.withoutFields (decl : TypeDecl) : TypeDecl := { decl with fields := [] }

namespace Model

/-- In two models every name has declarations that differ in their fields only, or none. -/
def SameButFields (left right : Model) : Prop :=
  ∀ name,
    (left.lookup name).map TypeDecl.withoutFields = (right.lookup name).map TypeDecl.withoutFields

variable {left right : Model}

/-- The fields of its types do not matter to what a provider offers. -/
theorem SameButFields.sameMethods (same : left.SameButFields right) : left.SameMethods right := by
  intro provider
  have parts (model : Model) : MethodRequest.offered model provider =
      ((model.ancestry provider).map TypeDecl.withoutFields).flatMap
        fun decl => decl.methods.map (decl.name, ·) := by
    rw [List.flatMap_map]
    rfl
  have determines (first second : TypeDecl) (same : first.withoutFields = second.withoutFields) :
      first.name = second.name ∧ first.parent = second.parent :=
    ⟨(congrArg TypeDecl.name same :), (congrArg TypeDecl.parent same :)⟩
  rw [parts left, parts right, ancestry_map_congr _ _ determines same]

/-- The fields of views do not matter to the kind of a name. -/
theorem SameButFields.kindOf (same : left.SameButFields right) (scalars : List String)
    (name : String) :
    Classifier.kindOf ⟨left, scalars⟩ name = Classifier.kindOf ⟨right, scalars⟩ name := by
  have parts (model : Model) : Classifier.kindOf ⟨model, scalars⟩ name =
      ((model.lookup name).map TypeDecl.withoutFields).elim
        (Classifier.undeclaredKind ⟨left, scalars⟩ name) fun decl =>
          if decl.isEntity then .entityLike
          else if decl.isEmbeddable then .embeddableLike
          else if decl.isEnum then .scalar
          else Classifier.undeclaredKind ⟨left, scalars⟩ name := by
    rw [Classifier.kindOf]
    cases model.lookup name <;> rfl
  rw [parts left, parts right, same name]

end Model

/-- Types keep their fields of one name. -/
def Amendment.keeping (name : String) : Amendment where
  apply decl := { decl with fields := decl.fields.filter (·.name == name) }
  name _ := rfl
  parent _ := rfl
  projection _ := rfl

namespace Model

variable {model : Model}

/-- Models of which fields are left out differ in fields only. -/
theorem sameButFields_keeping (model : Model) (name : String) :
    (model.amend (.keeping name)).SameButFields model := by
  intro type
  rw [lookup_amend, Option.map_map]
  rfl

/-- Of fields of one name the first is the closest. -/
theorem closest_of_same_name {fields : List FieldDecl} {name : String}
    (named : ∀ field ∈ fields, field.name = name) : closest fields = fields.head?.toList := by
  cases fields with
  | nil => rfl
  | cons first rest =>
    have only : (closest rest).filter (fun other => other.name != first.name) = [] := by
      rw [List.filter_eq_nil_iff]
      intro other held
      have listed : other ∈ rest := List.mem_of_find?_eq_some (mem_closest_iff.mp held)
      have same : other.name = first.name :=
        (named other (List.mem_cons_of_mem first listed)).trans
          (named first List.mem_cons_self).symm
      simp [same]
    rw [closest, only]
    rfl

/-- Where types keep their fields of the name of a mapped field, it is the only mapped field. -/
theorem mappedFields_keeping {view : String} {field : FieldDecl}
    (mapped : field ∈ model.mappedFields view) :
    (model.amend (.keeping field.name)).mappedFields view = [field] := by
  have kept : ((model.amend (.keeping field.name)).ancestry view).flatMap
        (fun decl => decl.fields.filter FieldDecl.isMapped) =
      ((model.ancestry view).flatMap fun decl => decl.fields.filter FieldDecl.isMapped).filter
        (·.name == field.name) := by
    rw [ancestry_amend, List.flatMap_map, List.filter_flatMap]
    refine List.flatMap_congr fun decl _ => ?_
    rw [List.filter_filter, Amendment.keeping, List.filter_filter]
    simp only [Bool.and_comm]
  have first : ((model.ancestry view).flatMap fun decl =>
      decl.fields.filter FieldDecl.isMapped).find? (·.name == field.name) = some field :=
    mem_closest_iff.mp mapped
  have named : ∀ other ∈ ((model.ancestry view).flatMap fun decl =>
      decl.fields.filter FieldDecl.isMapped).filter (·.name == field.name),
      other.name = field.name := by
    simp
  rw [mappedFields, effectiveFields, kept, closest_of_same_name named, List.head?_filter, first]
  rfl

end Model

namespace ViewCompiler

variable {compiler : ViewCompiler} {view : String} {projection : Projection} {field : FieldDecl}

/-- The fault of a path from a source, if it leads nowhere. -/
def fault? (compiler : ViewCompiler) (source path : String) : Option PathFault :=
  match compiler.resolve source path with
  | .ok _ => none
  | .error fault => some fault

/-- The faults that a field of a view contributes. -/
inductive Contributes (compiler : ViewCompiler) (view : String) (projection : Projection)
    (field : FieldDecl) : List ViewFault → Prop
  /-- A field that is computed and has a path is refused for that alone. -/
  | both {path : String} {computation : Computation} (mapped : field.path = some path)
    (computed : field.computed = some computation) :
    Contributes compiler view projection field [.computedAndMapped view field.name]
  /-- A field is copied from what its path, or its own name, leads to. -/
  | copied {found : Field} (plain : field.computed = none)
    (leads : compiler.resolve projection.source (field.path.getD field.name) = .ok found) :
    Contributes compiler view projection field []
  /-- The path of the field, or its name where it has no path, leads nowhere. -/
  | astray {fault : PathFault} (plain : field.computed = none)
    (fails : compiler.resolve projection.source (field.path.getD field.name) = .error fault) :
    Contributes compiler view projection field [.path fault]
  /-- A computed field has no dependencies. -/
  | independent {computation : Computation} (unmapped : field.path = none)
    (computed : field.computed = some computation) (independent : computation.dependencies = []) :
    Contributes compiler view projection field [.noDependencies view field.name]
  /-- Some dependencies lead nowhere: all their faults are told in order, and nothing else. -/
  | unresolved {computation : Computation} {faults : List PathFault} (unmapped : field.path = none)
    (computed : field.computed = some computation)
    (fail : computation.dependencies.filterMap (compiler.fault? projection.source) = faults)
    (faulty : faults ≠ []) :
    Contributes compiler view projection field (faults.map .path)
  /-- All dependencies lead to fields, and a candidate has the method; the number of reducers may be
  wrong. -/
  | provided {computation : Computation} {fields : List Field} (unmapped : field.path = none)
    (computed : field.computed = some computation) (nonempty : computation.dependencies ≠ [])
    (leads : compiler.Leads projection.source computation.dependencies fields)
    (provided : ∃ candidate ∈ candidates projection field,
      (compiler.request view field computation fields).ProvidedBy compiler.model candidate) :
    Contributes compiler view projection field (reducerFaults view field computation fields)
  /-- All dependencies lead to fields, and no candidate has the method; the number of reducers may
  be wrong as well. -/
  | unprovided {computation : Computation} {fields : List Field} {request : MethodRequest}
    (unmapped : field.path = none) (computed : field.computed = some computation)
    (nonempty : computation.dependencies ≠ [])
    (leads : compiler.Leads projection.source computation.dependencies fields)
    (asks : compiler.request view field computation fields = request)
    (unprovided : ∀ candidate ∈ candidates projection field,
      ¬request.ProvidedBy compiler.model candidate) :
    Contributes compiler view projection field
      (reducerFaults view field computation fields ++
        [.method (.noMatch view field.name request.text (candidates projection field)
          ((candidates projection field).filterMap (request.firstRejection? compiler.model)))])

/-- Dependencies fail with the faults of all that lead nowhere. -/
theorem dependencies_eq_error_iff {source : String} {paths : List String}
    {faults : List PathFault} :
    compiler.dependencies source paths = .error faults ↔
      paths.filterMap (compiler.fault? source) = faults ∧ faults ≠ [] := by
  rw [dependencies]
  induction paths generalizing faults with
  | nil =>
    simp only [List.map_nil, collected, List.filterMap_nil, reduceCtorEq, false_iff]
    rintro ⟨rfl, faulty⟩
    exact faulty rfl
  | cons path rest ih =>
    rw [List.map_cons, collected.eq_def, List.filterMap_cons, fault?]
    cases later : collected (rest.map (compiler.resolve source)) with
    | ok values =>
      have faultless : rest.filterMap (compiler.fault? source) = [] := by
        by_contra faulty
        cases later.symm.trans (ih.mpr ⟨rfl, faulty⟩)
      cases compiler.resolve source path <;> simp [faultless] <;> grind
    | error others =>
      obtain ⟨all, faulty⟩ := ih.mp later
      cases compiler.resolve source path <;> simp [all] <;> grind

/-- A computed field without a path contributes what its derivation fails with. -/
theorem contributes_of_derive (compiler : ViewCompiler) (view : String) (projection : Projection)
    {field : FieldDecl} {computation : Computation} (unmapped : field.path = none)
    (computed : field.computed = some computation) :
    match compiler.derive view projection field computation with
    | .ok _ => compiler.Contributes view projection field []
    | .error faults => compiler.Contributes view projection field faults := by
  by_cases empty : computation.dependencies = []
  · rw [derive, if_pos (by simpa using empty)]
    exact .independent unmapped computed empty
  · cases found : compiler.dependencies projection.source computation.dependencies with
    | error faults =>
      obtain ⟨fail, faulty⟩ := dependencies_eq_error_iff.mp found
      rw [derive, if_neg (by simpa using empty), found]
      exact .unresolved unmapped computed fail faulty
    | ok fields =>
      have leads := dependencies_eq_ok_iff.mp found
      rw [derive_of_leads empty found]
      cases resolved : (compiler.request view field computation fields).resolve compiler.model
          (candidates projection field) with
      | error fault =>
        obtain ⟨unprovided, rfl⟩ := MethodRequest.resolve_eq_error_iff.mp resolved
        exact .unprovided unmapped computed empty leads rfl unprovided
      | ok method =>
        have provided := MethodRequest.exists_resolve_eq_ok_iff.mp ⟨method, resolved⟩
        have contributes : compiler.Contributes view projection field _ :=
          .provided unmapped computed empty leads provided
        by_cases reduced : reducerFaults view field computation fields = []
        · rw [reduced] at contributes ⊢
          exact contributes
        · simpa only [List.isEmpty_iff, reduced, if_false] using contributes

/-- The failures of a field are told of it, and are what it contributes. -/
theorem exists_contributes (compiler : ViewCompiler) (view : String) (projection : Projection)
    (field : FieldDecl) :
    ∃ faults, compiler.Contributes view projection field faults ∧
      compiler.fieldFailures view projection field = faults.map (.ofField view field.name) := by
  rw [fieldFailures]
  cases computed : field.computed with
  | none =>
    rw [compileField_copied computed]
    cases found : compiler.resolve projection.source (field.path.getD field.name) with
    | ok leads => exact ⟨[], .copied computed found, rfl⟩
    | error fault => exact ⟨_, .astray computed found, rfl⟩
  | some computation =>
    cases mapped : field.path with
    | some path =>
      rw [compileField_both computed mapped]
      exact ⟨_, .both mapped computed, rfl⟩
    | none =>
      have contributes := compiler.contributes_of_derive view projection mapped computed
      rw [compileField_computed computed mapped]
      cases derived : compiler.derive view projection field computation with
      | ok derivation =>
        rw [derived] at contributes
        exact ⟨[], contributes, rfl⟩
      | error faults =>
        rw [derived] at contributes
        exact ⟨faults, contributes, rfl⟩

/-- The compiler of views of other declarations, with the same schema. -/
def withModel (compiler : ViewCompiler) (model : Model) : ViewCompiler :=
  { compiler with classifier := { compiler.classifier with model } }

/-- The compiler of views that keep their fields of one name only. -/
def narrowed (compiler : ViewCompiler) (name : String) : ViewCompiler :=
  compiler.withModel (compiler.model.amend (.keeping name))

/-- The failures of a view, none if it compiles. -/
def failures (compiler : ViewCompiler) (view : String) (projection : Projection) :
    List ViewFailure :=
  match compiler.compile view projection with
  | .ok _ => []
  | .error failures => failures

/-- Compilers of models that differ in fields only cannot be told apart by single fields. -/
theorem sameFor_withModel {other : Model} (same : other.SameButFields compiler.model)
    (source : String) : (compiler.withModel other).SameFor compiler source := by
  have agrees : Navigation.AgreesOn (compiler.withModel other).toNavigation compiler.toNavigation
      fun _ => True :=
    ⟨same.kindOf compiler.classifier.extraScalars, rfl, fun _ _ => rfl,
      fun _ _ _ _ _ _ _ => trivial⟩
  exact ⟨rfl, same.sameMethods, rfl, agrees.resolve trivial⟩

/-- Fields that other types or the view itself declare do not change the failures of a field. -/
theorem fieldFailures_withModel {other : Model} (same : other.SameButFields compiler.model)
    (view : String) (projection : Projection) (field : FieldDecl) :
    (compiler.withModel other).fieldFailures view projection field =
      compiler.fieldFailures view projection field := by
  rw [fieldFailures, fieldFailures, (sameFor_withModel same projection.source).compileField]

/-- A view of a registered source fails with what its fields fail with. -/
theorem failures_eq (registered : compiler.registry.contains projection.source = true) :
    compiler.failures view projection =
      (compiler.model.mappedFields view).flatMap (compiler.fieldFailures view projection) := by
  rw [failures, compile, registered]
  by_cases faultless : ((compiler.model.mappedFields view).flatMap
      (compiler.fieldFailures view projection)).isEmpty = true
  · simpa [faultless] using (List.isEmpty_iff.mp faultless).symm
  · simp [faultless]

/-- The failures of a view arise field by field. -/
structure FailsFieldByField (compiler : ViewCompiler) (view : String) (projection : Projection) :
    Prop where
  /-- The view fails with what its mapped fields fail with, in order. -/
  concatenated : compiler.failures view projection =
    (compiler.model.mappedFields view).flatMap (compiler.fieldFailures view projection)
  /-- The view compiles exactly when no mapped field fails. -/
  compiles : (∃ compiled, compiler.compile view projection = .ok compiled) ↔
    ∀ field ∈ compiler.model.mappedFields view, compiler.fieldFailures view projection field = []
  /-- What a mapped field fails with are the failures that the view has with this field alone. -/
  alone : ∀ field ∈ compiler.model.mappedFields view,
    (compiler.narrowed field.name).model.mappedFields view = [field] ∧
      (compiler.narrowed field.name).failures view projection =
        compiler.fieldFailures view projection field
  /-- Whatever fields are declared besides, a field fails with the same. -/
  apart : ∀ other : Model, other.SameButFields compiler.model → ∀ field,
    (compiler.withModel other).fieldFailures view projection field =
      compiler.fieldFailures view projection field
  /-- A failure of a field is told of the view and the field, and is what the declaration of the
  field contributes. -/
  contributed : ∀ field, ∃ faults, compiler.Contributes view projection field faults ∧
    compiler.fieldFailures view projection field =
      faults.map fun fault => ⟨view ++ "." ++ field.name, fault⟩

/-- The failures of every view of a registered source arise field by field. -/
theorem compile_failsFieldByField (compiler : ViewCompiler) (view : String)
    {projection : Projection} (registered : compiler.registry.contains projection.source = true) :
    compiler.FailsFieldByField view projection where
  concatenated := failures_eq registered
  compiles := by
    simp only [exists_compile_iff, registered, true_and, fieldFailures_eq_nil_iff]
  alone field mapped := by
    have only := Model.mappedFields_keeping mapped
    have same := Model.sameButFields_keeping compiler.model field.name
    refine ⟨only, ?_⟩
    have narrowed : (compiler.narrowed field.name).failures view projection =
        [field].flatMap ((compiler.narrowed field.name).fieldFailures view projection) :=
      only ▸ failures_eq registered
    rw [narrowed, List.flatMap_singleton, ViewCompiler.narrowed, fieldFailures_withModel same]
  apart other same := fieldFailures_withModel same view projection
  contributed := exists_contributes compiler view projection

/-- A report on orders: of its fields one can be copied, and each other one is wrong in a way of its
own. -/
def orderReport : TypeDecl :=
  { Compilation.plainType "OrderReport" with
    projection := some ⟨"Order", []⟩
    fields :=
      [Compilation.plainField "total" (.named "Long"),
        Compilation.plainField "id" (.named "Long"),
        { Compilation.plainField "owner" (.named "String") with path := some "id.owner" },
        { Compilation.plainField "number" (.named "Long") with
          path := some "id"
          computed := some ⟨["id"], []⟩ },
        { Compilation.plainField "count" (.named "int") with computed := some ⟨[], []⟩ }] }

/-- The compiler of `orderReport`, against orders that have only an identifier. -/
def reportCompiler : ViewCompiler where
  classifier := ⟨⟨[Compilation.order, orderReport], by decide, none⟩, []⟩
  registry := ⟨⟨[("Order", ⟨[("id", .identifier (.named "Long"))], by decide⟩)], by decide⟩, .empty⟩
  suggests := false
  methodLead := "get"

/-- The report fails with what its fields fail with, in their order. -/
theorem orderReport_failsFieldByField :
    reportCompiler.registry.contains "Order" = true ∧
      reportCompiler.FailsFieldByField "OrderReport" ⟨"Order", []⟩ ∧
      reportCompiler.failures "OrderReport" ⟨"Order", []⟩ =
        [⟨"OrderReport.total", .path (.unknownField "total" "Order" "total" none)⟩,
          ⟨"OrderReport.owner", .path (.notNavigable "id" "Order" "id.owner")⟩,
          ⟨"OrderReport.number", .computedAndMapped "OrderReport" "number"⟩,
          ⟨"OrderReport.count", .noDependencies "OrderReport" "count"⟩] := by
  have registered : reportCompiler.registry.contains "Order" = true := by decide
  have fails : reportCompiler.FailsFieldByField "OrderReport" ⟨"Order", []⟩ :=
    compile_failsFieldByField reportCompiler "OrderReport" registered
  have ancestry : reportCompiler.model.ancestry "OrderReport" = [orderReport] :=
    Model.ancestry_of_parentless rfl rfl
  have fields : reportCompiler.model.mappedFields "OrderReport" = orderReport.fields := by
    rw [Model.mappedFields, Model.effectiveFields, ancestry]
    rfl
  refine ⟨registered, fails, ?_⟩
  rw [fails.concatenated, fields]
  rfl

end ViewCompiler

end SchemaProjection
