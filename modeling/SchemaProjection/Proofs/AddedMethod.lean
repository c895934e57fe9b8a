import SchemaProjection.Proofs.Accounting
import SchemaProjection.Proofs.Amendment

/-!
# Methods that are missing can be added

When nothing is wrong with a computed field but that no provider has its method, the method can be
declared as it is expected in any type from which a provider that was tried inherits. Before, no
method fitted; so the new one is the first that fits in the first provider that inherits it, and
the field compiles to it. No schema is made of methods, so nothing else changes.
-/
namespace SchemaProjection

namespace Amendment

/-- A type declares one more method, behind its other ones. -/
def declaring (type : String) (method : MethodDecl) : Amendment where
  apply decl :=
    if decl.name = type then { decl with methods := decl.methods ++ [method] } else decl
  name decl := by split <;> rfl
  parent decl := by split <;> rfl
  projection decl := by split <;> rfl

/-- The methods of the type are followed by the new one, and other types have their own. -/
theorem declaring_methods (type : String) (method : MethodDecl) (decl : TypeDecl) :
    ((declaring type method).apply decl).methods =
      decl.methods ++ if decl.name = type then [method] else [] := by
  rw [declaring]
  by_cases same : decl.name = type <;> simp [same]

/-- No schema is made of methods. -/
theorem declaring_schemaPart (type : String) (method : MethodDecl) (decl : TypeDecl) :
    ((declaring type method).apply decl).schemaPart = decl.schemaPart := by
  rw [declaring]
  dsimp only
  split <;> rfl

end Amendment

/-- The first of some providers that is or extends a type. -/
def Model.FirstHeir (model : Model) (type : TypeDecl) (providers : List String)
    (provider : String) : Prop :=
  ∃ earlier later, providers = earlier ++ provider :: later ∧
    (∀ other ∈ earlier, type ∉ model.ancestry other) ∧ type ∈ model.ancestry provider

/-- If some provider is or extends a type, there is a first one that does. -/
theorem Model.exists_firstHeir {model : Model} {type : TypeDecl} {providers : List String}
    (inherited : ∃ provider ∈ providers, type ∈ model.ancestry provider) :
    ∃ provider, model.FirstHeir type providers provider := by
  have found : (providers.find? fun other => decide (type ∈ model.ancestry other)).isSome := by
    simpa using inherited
  obtain ⟨provider, first⟩ := Option.isSome_iff_exists.mp found
  obtain ⟨inherits, earlier, later, parts, passed⟩ := List.find?_eq_some_iff_append.mp first
  refine ⟨provider, earlier, later, parts, fun other held => ?_, of_decide_eq_true inherits⟩
  simpa using passed other held

namespace MethodRequest

variable {request : MethodRequest} {model : Model} {type : TypeDecl} {method : MethodDecl}

/-- What is offered once a method is declared: the new method behind the others of its type. -/
theorem offered_declaring (model : Model) (type : String) (method : MethodDecl)
    (provider : String) :
    offered (model.amend (.declaring type method)) provider =
      (model.ancestry provider).flatMap fun decl =>
        (decl.methods ++ if decl.name = type then [method] else []).map (decl.name, ·) := by
  rw [offered, Model.ancestry_amend, List.flatMap_map]
  simp only [Amendment.declaring_methods, Amendment.name]

/-- A provider that has a method that fits once one is declared had one before, or inherits from
the type that declares it. -/
theorem providedBy_of_declaring (declared : type ∈ model.types) {provider : String}
    (provides : request.ProvidedBy (model.amend (.declaring type.name method)) provider) :
    request.ProvidedBy model provider ∨ type ∈ model.ancestry provider := by
  obtain ⟨amended, listed, other, offers, fits⟩ := provides
  rw [Model.ancestry_amend] at listed
  obtain ⟨decl, inherited, rfl⟩ := List.mem_map.mp listed
  rw [Amendment.declaring_methods, List.mem_append] at offers
  by_cases named : decl.name = type.name
  · have same : decl = type :=
      Model.eq_of_name_eq (Model.mem_types_of_mem_ancestry inherited) declared named
    exact .inr (same ▸ inherited)
  · rw [if_neg named] at offers
    exact .inl ⟨decl, inherited, other, offers.resolve_right List.not_mem_nil, fits⟩

/-- A provider that is or extends the type that declares a method offers it behind methods that it
offered before. -/
theorem exists_offered_declaring (declared : type ∈ model.types) {provider : String}
    (inherits : type ∈ model.ancestry provider) :
    ∃ before after, offered (model.amend (.declaring type.name method)) provider =
        before ++ (type.name, method) :: after ∧
      ∀ offer ∈ before, offer ∈ offered model provider := by
  obtain ⟨front, back, ancestry, closer⟩ := List.eq_append_cons_of_mem inherits
  let own (decl : TypeDecl) : List (String × MethodDecl) := decl.methods.map (decl.name, ·)
  let extended (decl : TypeDecl) : List (String × MethodDecl) :=
    (decl.methods ++ if decl.name = type.name then [method] else []).map (decl.name, ·)
  have unchanged : front.flatMap extended = front.flatMap own := by
    refine List.flatMap_congr fun decl before => ?_
    have inherited : decl ∈ model.ancestry provider := ancestry ▸ List.mem_append_left _ before
    have other : decl.name ≠ type.name := fun named =>
      closer (Model.eq_of_name_eq (Model.mem_types_of_mem_ancestry inherited) declared named ▸
        before)
    simp [extended, own, other]
  refine ⟨front.flatMap own ++ own type, back.flatMap extended, ?_, fun offer held => ?_⟩
  · rw [offered_declaring, ancestry, List.flatMap_append, List.flatMap_cons]
    change front.flatMap extended ++ (extended type ++ back.flatMap extended) = _
    rw [unchanged]
    simp [extended, own]
  · rw [offered, ancestry, List.flatMap_append, List.flatMap_cons, ← List.append_assoc]
    exact List.mem_append_left _ held

/-- Where no provider has a method that fits, a method that is declared and fits is the first one:
in the first provider that is or extends the type that declares it. -/
theorem firstMatch_declaring (declared : type ∈ model.types) (fits : request.Fits method)
    {providers : List String} {provider : String}
    (unprovided : ∀ provider ∈ providers, ¬request.ProvidedBy model provider)
    (heir : model.FirstHeir type providers provider) :
    request.FirstMatch (model.amend (.declaring type.name method)) providers
      ⟨provider, type.name, request.name, request.returns, request.parameters.map Prod.fst,
        method.isStatic⟩ := by
  obtain ⟨earlier, later, parts, passed, inherits⟩ := heir
  obtain ⟨before, after, offers, old⟩ := exists_offered_declaring declared inherits
  refine ⟨earlier, provider, later, parts, fun other held provides => ?_, before, type.name, method,
    after, offers, fun offer held accepted => ?_, fits, rfl⟩
  · rcases providedBy_of_declaring declared provides with already | inherits
    · exact unprovided other (parts ▸ List.mem_append_left _ held) already
    · exact passed other held inherits
  · have tried : provider ∈ providers := parts ▸ List.mem_append_right _ List.mem_cons_self
    exact unprovided provider tried (exists_offered_iff.mp ⟨offer, old offer held, accepted⟩)

end MethodRequest

namespace ViewCompiler

variable {compiler : ViewCompiler}

/-- A derivation fails for the want of a method alone exactly when nothing is wrong with its
dependencies and reducers, and the request for the method fails. -/
theorem derive_eq_method_iff {view : String} {projection : Projection} {field : FieldDecl}
    {computation : Computation} {fault : MethodFault} :
    compiler.derive view projection field computation = .error [.method fault] ↔
      computation.dependencies ≠ [] ∧
        ∃ fields, compiler.Leads projection.source computation.dependencies fields ∧
          computation.reducers.length = (fields.filter Field.isCollection).length ∧
          (compiler.request view field computation fields).resolve compiler.model
            (candidates projection field) = .error fault := by
  simp only [← dependencies_eq_ok_iff]
  by_cases empty : computation.dependencies = []
  · simp [derive, empty]
  · cases found : compiler.dependencies projection.source computation.dependencies with
    | error paths =>
      have other : paths.map ViewFault.path ≠ [.method fault] := by
        simp [List.map_eq_singleton_iff]
      simp [derive, empty, found, other]
    | ok fields =>
      rw [derive_of_leads empty found]
      by_cases reduced : computation.reducers.length = (fields.filter Field.isCollection).length <;>
        cases resolved : (compiler.request view field computation fields).resolve compiler.model
          (candidates projection field) <;>
        simp [reducerFaults, empty, reduced, resolved]

/-- A field fails for the want of a method alone exactly when it is computed, nothing is wrong with
its dependencies and reducers, and the request for its method fails. -/
theorem fieldFailures_eq_method_iff {view : String} {projection : Projection} {field : FieldDecl}
    {fault : MethodFault} :
    compiler.fieldFailures view projection field = [.ofField view field.name (.method fault)] ↔
      ∃ computation fields, compiler.DependsOn projection.source field computation fields ∧
        (compiler.request view field computation fields).resolve compiler.model
          (candidates projection field) = .error fault := by
  have failed_iff : compiler.fieldFailures view projection field =
      [.ofField view field.name (.method fault)] ↔
        compiler.compileField view projection field = .error [.method fault] := by
    rw [fieldFailures]
    cases compiler.compileField view projection field with
    | ok compiled => simp
    | error faults => simp [List.map_eq_singleton_iff, ViewFailure.ofField]
  rw [failed_iff]
  constructor
  · intro failed
    cases computed : field.computed with
    | none =>
      rw [compileField_copied computed] at failed
      cases found : compiler.resolve projection.source (field.path.getD field.name) <;>
        simp [found] at failed
    | some computation =>
      cases mapped : field.path with
      | some path => simp [compileField_both computed mapped] at failed
      | none =>
        have derived : compiler.derive view projection field computation =
            .error [.method fault] := by
          rw [compileField_computed computed mapped] at failed
          cases derived : compiler.derive view projection field computation <;>
            simp_all [Except.map]
        obtain ⟨nonempty, fields, found, reduced, resolved⟩ := derive_eq_method_iff.mp derived
        exact ⟨computation, fields, ⟨computed, mapped, nonempty, found, reduced⟩, resolved⟩
  · rintro ⟨computation, fields, depends, resolved⟩
    have derived : compiler.derive view projection field computation = .error [.method fault] :=
      derive_eq_method_iff.mpr ⟨depends.nonempty, fields, depends.leads, depends.reduced, resolved⟩
    rw [compileField_computed depends.computed depends.unmapped, derived]
    rfl

/-- Where schemas agree, the same is known of the dependencies of a field. -/
theorem DependsOn.of_schemasAgree {settings : CompilerSettings} {left right : Model}
    (agree : left.SchemasAgree settings right) {registry : Registry} {source : String}
    {field : FieldDecl} {computation : Computation} {fields : List Field}
    (depends : (settings.viewCompiler right registry).DependsOn source field computation fields) :
    (settings.viewCompiler left registry).DependsOn source field computation fields where
  computed := depends.computed
  unmapped := depends.unmapped
  nonempty := depends.nonempty
  leads := depends.leads.imp fun path _ leads =>
    (agree.paths registry settings.suggestsFields source path).trans leads
  reduced := depends.reduced

end ViewCompiler

namespace Compilation

/-- A missing method can be added where it is looked for. When all that is wrong with a computed
field of a view is that no provider has its method, the field asks for a method with the expected
signature; and if any type that a provider that was tried is or extends declares a method as asked
for, with whatever names of its parameters and static or not, behind its other methods, the field
compiles to that method, taken from the first provider that inherits it. The view still has the
field, and all schemas, findings and paths stay as they are. -/
theorem run_field_compiles_after_declaring (settings : CompilerSettings) {model : Model}
    {view : TypeDecl} {projection : Projection} (declared : view ∈ model.types)
    (projects : view.projection = some projection) {field : FieldDecl}
    (mapped : field ∈ model.mappedFields view.name)
    {reportedView reportedField expected : String} {tried : List String}
    {rejections : List MethodFault}
    (fails : (settings.viewCompiler model (run settings model).schema).fieldFailures view.name
        projection field =
      [.ofField view.name field.name
        (.method (.noMatch reportedView reportedField expected tried rejections))]) :
    let compiler := settings.viewCompiler model (run settings model).schema
    ∃ computation fields, compiler.DependsOn projection.source field computation fields ∧
      let request := compiler.request view.name field computation fields
      expected = request.text ∧ tried = ViewCompiler.candidates projection field ∧
        ∀ type ∈ model.types, (∃ candidate ∈ tried, type ∈ model.ancestry candidate) →
          ∀ method, request.Fits method →
            let extended := model.amend (.declaring type.name method)
            (∃ provider, model.FirstHeir type tried provider ∧
              (settings.viewCompiler extended (run settings extended).schema).compileField
                  view.name projection field =
                .ok (.computed ⟨field.name, computation.dependencies, computation.reducers,
                  field.method, ⟨provider, type.name, request.name, request.returns,
                    request.parameters.map Prod.fst, method.isStatic⟩⟩)) ∧
              (∃ decl ∈ extended.types, decl.name = view.name ∧
                decl.projection = some projection) ∧
              field ∈ extended.mappedFields view.name ∧
              extended.SchemasAgree settings model := by
  intro compiler
  obtain ⟨computation, fields, depends, failed⟩ :=
    ViewCompiler.fieldFailures_eq_method_iff.mp fails
  obtain ⟨unprovided, same⟩ := MethodRequest.resolve_eq_error_iff.mp failed
  cases same
  refine ⟨computation, fields, depends, rfl, rfl, ?_⟩
  intro type typeDeclared inherited method fits extended
  have keeps := Amendment.declaring_schemaPart type.name method
  have agree : extended.SchemasAgree settings model := Model.schemasAgree_amend settings keeps
  refine ⟨?_, ?_, ?_, agree⟩
  · obtain ⟨provider, heir⟩ := Model.exists_firstHeir inherited
    refine ⟨provider, heir, ?_⟩
    rw [agree.run_schema, ViewCompiler.compileField_eq_computed_iff]
    exact ⟨computation, fields, depends.of_schemasAgree agree, _,
      MethodRequest.firstMatch_declaring typeDeclared fits unprovided heir, rfl⟩
  · exact ⟨_, List.mem_map_of_mem declared, Amendment.name _ view,
      (Amendment.projection _ view).trans projects⟩
  · rw [(Model.sameSchema_amend keeps).mappedFields]
    exact mapped

/-- The field of the summary of an order that counts its lines. -/
def lineCount : FieldDecl :=
  { plainField "lineCount" (.named "int") with computed := some ⟨["lines"], ["count"]⟩ }

/-- Orders and the summary of them, where nothing counts the lines. -/
def uncountedOrders : Model := ⟨[order, plainType "OrderMethods", orderSummary], by decide, none⟩

/-- The lines of an order can be counted once the provider of the summary declares how. -/
theorem lineCount_compiles_after_declaring :
    let projection : Projection := ⟨"Order", [⟨"OrderMethods", none⟩]⟩
    let compiler := CompilerSettings.standard.viewCompiler uncountedOrders
      (run .standard uncountedOrders).schema
    let method : MethodDecl :=
      ⟨"getLineCount", .named "int", [⟨"all", .generic "List" [.named "Line"]⟩], false⟩
    let extended := uncountedOrders.amend (.declaring "OrderMethods" method)
    (orderSummary ∈ uncountedOrders.types ∧ orderSummary.projection = some projection ∧
        lineCount ∈ uncountedOrders.mappedFields "OrderSummary" ∧
        compiler.fieldFailures "OrderSummary" projection lineCount =
          [.ofField "OrderSummary" "lineCount" (.method (.noMatch "OrderSummary" "lineCount"
            "int getLineCount(List<Line> lines)" ["OrderMethods"] []))]) ∧
      ∃ derivation, (CompilerSettings.standard.viewCompiler extended
          (run .standard extended).schema).compileField "OrderSummary" projection lineCount =
            .ok (.computed derivation) ∧
        derivation.method.provider = "OrderMethods" ∧
        derivation.method.declaredIn = "OrderMethods" := by
  intro projection compiler method extended
  have declared : orderSummary ∈ uncountedOrders.types := by decide
  have orderAncestry : uncountedOrders.ancestry "Order" = [order] :=
    Model.ancestry_of_parentless rfl rfl
  have summaryAncestry : uncountedOrders.ancestry "OrderSummary" = [orderSummary] :=
    Model.ancestry_of_parentless rfl rfl
  have methodsAncestry : uncountedOrders.ancestry "OrderMethods" = [plainType "OrderMethods"] :=
    Model.ancestry_of_parentless rfl rfl
  have mapped : lineCount ∈ uncountedOrders.mappedFields "OrderSummary" := by
    rw [Model.mappedFields, Model.mem_effectiveFields_iff, Model.IsClosest, summaryAncestry]
    decide
  let lines := plainField "lines" (.generic "List" [.named "Line"])
  have persistent : lines ∈ uncountedOrders.persistentFields "Order" := by
    rw [Model.persistentFields, Model.mem_effectiveFields_iff, Model.IsClosest, orderAncestry]
    decide
  have reachable : compiler.classifier.Reachable uncountedOrders.sources "Order" :=
    Classifier.reachable_root (by decide) (.inl (by decide))
  have leads : compiler.resolve "Order" "lines" = .ok (compiler.classifier.describe lines) :=
    Navigation.fieldAt_eq_ok_iff.mpr ⟨_, (discoverSchema_lookup_eq_some_iff ..).mpr
      ⟨reachable, rfl⟩, List.mem_map_of_mem persistent⟩
  have depends : compiler.DependsOn "Order" lineCount ⟨["lines"], ["count"]⟩
      [compiler.classifier.describe lines] :=
    ⟨rfl, rfl, by simp, .cons leads .nil, by decide⟩
  let request := compiler.request "OrderSummary" lineCount ⟨["lines"], ["count"]⟩
    [compiler.classifier.describe lines]
  have asked : request.text = "int getLineCount(List<Line> lines)" := by decide
  have unprovided : ∀ provider ∈ ["OrderMethods"],
      ¬request.ProvidedBy uncountedOrders provider := by
    simp [MethodRequest.ProvidedBy, methodsAncestry, plainType]
  have rejections : ["OrderMethods"].filterMap (request.firstRejection? uncountedOrders) = [] := by
    simp [MethodRequest.firstRejection?, MethodRequest.namesakes, MethodRequest.offered,
      methodsAncestry, plainType]
  have failed : request.resolve uncountedOrders ["OrderMethods"] =
      .error (.noMatch "OrderSummary" "lineCount" "int getLineCount(List<Line> lines)"
        ["OrderMethods"] []) :=
    MethodRequest.resolve_eq_error_iff.mpr ⟨unprovided, by rw [asked, rejections]; rfl⟩
  have fails : compiler.fieldFailures "OrderSummary" projection lineCount =
      [.ofField "OrderSummary" "lineCount" (.method (.noMatch "OrderSummary" "lineCount"
        "int getLineCount(List<Line> lines)" ["OrderMethods"] []))] :=
    ViewCompiler.fieldFailures_eq_method_iff.mpr ⟨_, _, depends, failed⟩
  refine ⟨⟨declared, rfl, mapped, fails⟩, ?_⟩
  obtain ⟨computation, fields, found, -, -, compiles⟩ :=
    run_field_compiles_after_declaring .standard declared rfl mapped fails
  obtain rfl : ⟨["lines"], ["count"]⟩ = computation := Option.some.inj found.computed
  obtain rfl : [compiler.classifier.describe lines] = fields := by
    cases found.leads with
    | cons resolved rest =>
      cases rest
      rw [Except.ok.inj (leads.symm.trans resolved)]
  have inherits : plainType "OrderMethods" ∈ uncountedOrders.ancestry "OrderMethods" := by
    rw [methodsAncestry]
    exact List.mem_cons_self
  obtain ⟨⟨provider, ⟨earlier, later, parts, -⟩, compiled⟩, -⟩ :=
    compiles (plainType "OrderMethods") (by decide) ⟨"OrderMethods", by decide, inherits⟩ method
      ⟨by decide, rfl, by decide⟩
  have only : provider ∈ ["OrderMethods"] :=
    parts ▸ List.mem_append_right earlier List.mem_cons_self
  obtain rfl := List.mem_singleton.mp only
  exact ⟨_, compiled, rfl, rfl⟩

end Compilation

end SchemaProjection
