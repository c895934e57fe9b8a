import SchemaProjection.Proofs.Simulation
import SchemaProjection.Proofs.ViewCompilation

/-!
# Further scalars

The names that settings add to the scalars turn unknown names into scalars and change no other
kind. Neither kind belongs to a schema type, so two settings that differ in these names discover
the same types, and their fields are described alike but for the kind of the elements of a
collection (`Field.Similar`). A path that goes on behind such a name fails either way: where it
is a scalar the segment is not navigable, where it is unknown it has no fields in the schema
(`PathFault.Alike`). Everything else is carried over from these two relations, up to whole
compilations.
-/
namespace SchemaProjection

/-- Kinds that are the same, or of which one is a scalar and the other is unknown. -/
inductive Kind.Similar : Kind → Kind → Prop where
  /-- The same kind. -/
  | same (kind : Kind) : Similar kind kind
  /-- Only the first setting makes the name a scalar. -/
  | scalarUnknown : Similar .scalar .unknown
  /-- Only the second setting makes the name a scalar. -/
  | unknownScalar : Similar .unknown .scalar

/-- Collections that are the same but for the kind of their elements. -/
structure Collection.Similar (left right : Collection) : Prop where
  /-- The kinds of the elements are similar. -/
  kind : left.kind.Similar right.kind
  /-- The containers are the same. -/
  container : left.container = right.container
  /-- The inverse fields are the same. -/
  inverse : left.inverse = right.inverse
  /-- The orders are the same. -/
  ordering : left.ordering = right.ordering

/-- Fields that are the same but for the kind of the elements, if they are collections. -/
structure Field.Similar (left right : Field) : Prop where
  /-- Both are identifiers, or none is. -/
  isIdentifier : left.isIdentifier = right.isIdentifier
  /-- Paths are followed to the same type. -/
  relatedType : left.relatedType = right.relatedType
  /-- The declared types are the same. -/
  declaredType : left.declaredType = right.declaredType
  /-- The mapped identifiers are the same. -/
  mappedIdentifier : left.mappedIdentifier = right.mappedIdentifier
  /-- Both are collections and similar, or none is a collection. -/
  collection : Option.Rel Collection.Similar left.collection right.collection

/-- Mappings that are the same but for the kind of the elements, if they copy collections. -/
structure Mapping.Similar (left right : Mapping) : Prop where
  /-- The targets are the same. -/
  target : left.target = right.target
  /-- The paths are the same. -/
  path : left.path = right.path
  /-- The types are the same. -/
  type : left.type = right.type
  /-- Both copy similar collections, or none copies a collection. -/
  collection : Option.Rel Collection.Similar left.collection right.collection

/-- Compiled views that are the same but for the kinds of elements in their mappings. -/
structure View.Similar (left right : View) : Prop where
  /-- The sources are the same. -/
  source : left.source = right.source
  /-- The mappings are similar and in the same order. -/
  mappings : List.Forall₂ Mapping.Similar left.mappings right.mappings
  /-- The derivations are the same. -/
  derivations : left.derivations = right.derivations
  /-- The providers are the same. -/
  providers : left.providers = right.providers

/-- Faults that are the same, or of which one says that a path goes on behind a scalar and the
other that the same path comes to a type without fields. -/
inductive PathFault.Alike : PathFault → PathFault → Prop where
  /-- The same fault. -/
  | same (fault : PathFault) : Alike fault fault
  /-- Only the first setting makes the type behind the segment a scalar. -/
  | scalarUnknown (segment type path unknown : String) :
    Alike (.notNavigable segment type path) (.unresolvedType path unknown)
  /-- Only the second setting makes the type behind the segment a scalar. -/
  | unknownScalar (segment type path unknown : String) :
    Alike (.unresolvedType path unknown) (.notNavigable segment type path)

/-- Diagnostics on the same element that are the same but for what is said of a path. -/
def Diagnostic.Alike (left right : Diagnostic) : Prop :=
  left = right ∨ ∃ fault other : PathFault, fault.Alike other ∧
    ∃ element, left = .about element fault.remark ∧ right = .about element other.remark

/-- Faults of views that are the same, or faults of paths that are alike. -/
inductive ViewFault.Alike : ViewFault → ViewFault → Prop where
  /-- The same fault. -/
  | same (fault : ViewFault) : Alike fault fault
  /-- What is wrong with one path. -/
  | path {fault other : PathFault} (alike : fault.Alike other) : Alike (.path fault) (.path other)

/-- Failures on the same element with faults that are alike. -/
structure ViewFailure.Alike (left right : ViewFailure) : Prop where
  /-- The elements are the same. -/
  element : left.element = right.element
  /-- The faults are alike. -/
  fault : left.fault.Alike right.fault

/-- Compiled fields that are similar mappings or the same derivation. -/
inductive ViewField.Similar : ViewField → ViewField → Prop where
  /-- Both are copied. -/
  | copied {mapping other : Mapping} (similar : mapping.Similar other) :
    Similar (.copied mapping) (.copied other)
  /-- Both are computed. -/
  | computed (derivation : Derivation) : Similar (.computed derivation) (.computed derivation)

/-- Two results that are related values or related errors. -/
inductive OutcomesRelated {ε α : Type} (errors : ε → ε → Prop) (values : α → α → Prop) :
    Except ε α → Except ε α → Prop where
  /-- Both have values. -/
  | values {left right : α} (related : values left right) :
    OutcomesRelated errors values (.ok left) (.ok right)
  /-- Both have errors. -/
  | errors {left right : ε} (related : errors left right) :
    OutcomesRelated errors values (.error left) (.error right)

/-- Results stay related when their errors are related in a coarser way. -/
theorem OutcomesRelated.imp_errors {ε α : Type} {errors coarser : ε → ε → Prop}
    {values : α → α → Prop} {left right : Except ε α}
    (related : OutcomesRelated errors values left right)
    (implied : ∀ first second, errors first second → coarser first second) :
    OutcomesRelated coarser values left right := by
  cases related with
  | values related => exact .values related
  | errors related => exact .errors (implied _ _ related)

/-- An outcome is related to itself where errors and values are. -/
theorem OutcomesRelated.refl {ε α : Type} {errors : ε → ε → Prop} {values : α → α → Prop}
    (sameError : ∀ error, errors error error) (sameValue : ∀ value, values value value)
    (outcome : Except ε α) : OutcomesRelated errors values outcome outcome := by
  cases outcome with
  | ok value => exact .values (sameValue value)
  | error error => exact .errors (sameError error)

/-- Failures that are alike are reported alike. -/
theorem ViewFailure.Alike.diagnostic {left right : ViewFailure} (alike : left.Alike right) :
    left.diagnostic.Alike right.diagnostic := by
  obtain ⟨element, fault⟩ := left
  obtain ⟨otherElement, otherFault⟩ := right
  obtain ⟨same, faults⟩ := alike
  obtain rfl : element = otherElement := same
  cases faults with
  | same fault => exact .inl rfl
  | path alike => exact .inr ⟨_, _, alike, element, rfl, rfl⟩

/-- Diagnostics that are alike are equally severe. -/
theorem Diagnostic.Alike.severity_eq {left right : Diagnostic} (alike : left.Alike right) :
    left.severity = right.severity := by
  obtain same | ⟨fault, other, faults, element, rfl, rfl⟩ := alike
  · rw [same]
  · cases faults <;> rfl

/-- Diagnostics that are alike report errors alike. -/
theorem Diagnostics.hasErrors_eq_of_alike {left right : Diagnostics}
    (alike : List.Forall₂ Diagnostic.Alike left.items right.items) :
    left.hasErrors = right.hasErrors := by
  have errors : List.Forall₂ Diagnostic.Alike left.errors right.errors :=
    List.rel_filter (fun first second same => by
      change (first.severity == Severity.error) = true ↔ (second.severity == Severity.error) = true
      rw [same.severity_eq]) alike
  rw [Diagnostics.hasErrors, Diagnostics.hasErrors]
  generalize left.errors = first, right.errors = second at errors
  cases errors <;> rfl

namespace Kind

/-- Similar kinds have the same role. -/
theorem Similar.role?_eq {left right : Kind} (similar : left.Similar right) :
    left.role? = right.role? := by
  cases similar <;> rfl

end Kind

namespace Classifier

variable {left right : Classifier}

/-- In one model, names are of similar kinds whatever the further scalars are. -/
theorem kindOf_similar (model : left.model = right.model) (name : String) :
    (left.kindOf name).Similar (right.kindOf name) := by
  have undeclared : (left.undeclaredKind name).Similar (right.undeclaredKind name) := by
    rw [undeclaredKind, undeclaredKind]
    by_cases scalar : left.isScalarName name <;> by_cases other : right.isScalarName name
    · rw [if_pos scalar, if_pos other]
      exact .same .scalar
    · rw [if_pos scalar, if_neg other]
      exact .scalarUnknown
    · rw [if_neg scalar, if_pos other]
      exact .unknownScalar
    · rw [if_neg scalar, if_neg other]
      exact .same .unknown
  rw [kindOf, kindOf, model]
  cases right.model.lookup name with
  | none => exact undeclared
  | some decl =>
    dsimp only
    split_ifs with entity embeddable enumeration
    · exact .same .entityLike
    · exact .same .embeddableLike
    · exact .same .scalar
    · exact undeclared

/-- In one model, a field is described by similar ones whatever the further scalars are. -/
theorem describe_similar (model : left.model = right.model) (field : FieldDecl) :
    (left.describe field).Similar (right.describe field) := by
  have same (described : Field) (plain : described.collection = none) :
      described.Similar described :=
    ⟨rfl, rfl, rfl, rfl, by rw [plain]; exact .none⟩
  rw [describe, describe]
  dsimp only
  split_ifs
  · exact same _ rfl
  · exact same _ rfl
  · exact ⟨rfl, rfl, rfl, rfl, .some ⟨kindOf_similar model _, rfl, rfl, rfl⟩⟩
  · exact same _ rfl

/-- In one model, types are discovered in step whatever the further scalars are. -/
theorem inStep_similar (model : left.model = right.model) : left.InStep Field.Similar right := by
  apply inStep_of_describe_related
  case roles => exact fun name => (kindOf_similar model name).role?_eq
  case persistent => exact fun name => by rw [model]
  case composites => exact fun name => by rw [hasComposite, hasComposite, model]
  case described => exact describe_similar model
  case targets => exact fun _ _ similar => similar.relatedType
  case identifiers => exact fun _ _ similar => similar.isIdentifier

end Classifier

namespace Navigation

/-- Two navigations are similar: they hold similar fields of the same types, all of them schema
types, and differ in further scalars at most. -/
structure Similar (left right : Navigation) : Prop where
  /-- Names are of similar kinds. -/
  kinds : ∀ name, (left.classifier.kindOf name).Similar (right.classifier.kindOf name)
  /-- Both suggest fields, or none does. -/
  suggests : left.suggests = right.suggests
  /-- The same types are registered with similar fields. -/
  registries : left.registry.Related Field.Similar right.registry
  /-- Names without a role are not registered. -/
  unregistered : ∀ name, (left.classifier.kindOf name).role? = none →
    left.registry.lookup name = none

variable {left right : Navigation}

/-- Behind a type that is not registered, every path fails for the want of this type. -/
theorem follow_of_unregistered {navigation : Navigation} {type : String}
    (unregistered : navigation.registry.lookup type = none) (path segment : String)
    (rest : List String) :
    navigation.follow path type segment rest = .error (.unresolvedType path type) := by
  have missing : navigation.fieldAt path type segment = .error (.unresolvedType path type) := by
    rw [fieldAt, unregistered]
  cases rest with
  | nil => exact missing
  | cons next rest => rw [follow_cons, missing]

/-- A name without a role is not registered on the other side either. -/
theorem Similar.unregistered_right (similar : left.Similar right) (name : String)
    (roleless : (left.classifier.kindOf name).role? = none) :
    right.registry.lookup name = none := by
  have found := similar.registries.lookup name
  rw [similar.unregistered name roleless] at found
  generalize right.registry.lookup name = fields at found
  cases found
  rfl

/-- A segment is found on both sides with similar fields, or missed with the same fault. -/
theorem Similar.fieldAt (similar : left.Similar right) (path type segment : String) :
    OutcomesRelated Eq Field.Similar (left.fieldAt path type segment)
      (right.fieldAt path type segment) := by
  rw [Navigation.fieldAt, Navigation.fieldAt, similar.suggests]
  have found := similar.registries.lookup type
  generalize left.registry.lookup type = fields, right.registry.lookup type = others at found
  cases found with
  | none => exact .errors rfl
  | @some fields others related =>
    have looked := related.find? segment
    dsimp only
    rw [related.names_eq]
    generalize fields.find? segment = field, others.find? segment = other at looked
    cases looked with
    | none => exact .errors rfl
    | some alike => exact .values alike

/-- Behind a field both sides go on, or both fail. Where its type is a scalar on one side only, it
is registered on neither, so the other side cannot go on either. -/
theorem Similar.goOn (similar : left.Similar right) (path type segment behind next : String)
    (rest : List String)
    (further : OutcomesRelated PathFault.Alike Field.Similar (left.follow path behind next rest)
      (right.follow path behind next rest)) :
    OutcomesRelated PathFault.Alike Field.Similar
      (if left.classifier.kindOf behind = .scalar then .error (.notNavigable segment type path)
        else left.follow path behind next rest)
      (if right.classifier.kindOf behind = .scalar then .error (.notNavigable segment type path)
        else right.follow path behind next rest) := by
  have kinds := similar.kinds behind
  have unregistered := similar.unregistered behind
  have unregisteredRight := similar.unregistered_right behind
  generalize left.classifier.kindOf behind = kind, right.classifier.kindOf behind = other
    at kinds unregistered unregisteredRight
  cases kinds with
  | same kind =>
    by_cases scalar : kind = .scalar
    · rw [if_pos scalar, if_pos scalar]
      exact .errors (.same _)
    · rw [if_neg scalar, if_neg scalar]
      exact further
  | scalarUnknown =>
    have fails := follow_of_unregistered (unregisteredRight rfl) path next rest
    rw [if_pos rfl, if_neg nofun, fails]
    exact .errors (.scalarUnknown segment type path behind)
  | unknownScalar =>
    have fails := follow_of_unregistered (unregistered rfl) path next rest
    rw [if_neg nofun, if_pos rfl, fails]
    exact .errors (.unknownScalar segment type path behind)

/-- Segments are followed to similar fields, or fail alike. -/
theorem Similar.follow (similar : left.Similar right) (path type segment : String)
    (rest : List String) :
    OutcomesRelated PathFault.Alike Field.Similar (left.follow path type segment rest)
      (right.follow path type segment rest) := by
  induction rest generalizing type segment with
  | nil =>
    have looked := similar.fieldAt path type segment
    exact looked.imp_errors fun fault _ same => same ▸ .same fault
  | cons next rest ih =>
    rw [follow_cons, follow_cons]
    have looked := similar.fieldAt path type segment
    generalize left.fieldAt path type segment = result,
      right.fieldAt path type segment = otherResult at looked
    cases looked with
    | errors same => exact .errors (same ▸ .same _)
    | @values field other alike =>
      have further := ih field.relatedType next
      dsimp only
      rw [← alike.relatedType]
      exact similar.goOn path type segment field.relatedType next rest further

/-- Paths lead to similar fields, or fail alike. -/
theorem Similar.resolve (similar : left.Similar right) (root path : String) :
    OutcomesRelated PathFault.Alike Field.Similar (left.resolve root path)
      (right.resolve root path) := by
  rw [Navigation.resolve, Navigation.resolve]
  cases Text.segments path with
  | nil => exact .errors (.same _)
  | cons segment rest => exact similar.follow path root segment rest

end Navigation

namespace ViewCompiler

/-- Two compilers are similar: they differ in what similar navigations differ in. -/
structure Similar (left right : ViewCompiler) : Prop extends
    Navigation.Similar left.toNavigation right.toNavigation where
  /-- The models are the same. -/
  model : left.model = right.model
  /-- Conventional names begin alike. -/
  leads : left.methodLead = right.methodLead

variable {left right : ViewCompiler}

/-- Related results are collected to related values, or to related errors of which there are as
many. -/
theorem collected_related {α : Type} {errors : PathFault → PathFault → Prop}
    {values : α → α → Prop} {results others : List (Except PathFault α)}
    (related : List.Forall₂ (OutcomesRelated errors values) results others) :
    OutcomesRelated (List.Forall₂ errors) (List.Forall₂ values) (collected results)
      (collected others) := by
  induction related with
  | nil => exact .values .nil
  | @cons result other rest otherRest first _ ih =>
    rw [collected.eq_def (result :: rest), collected.eq_def (other :: otherRest)]
    dsimp only
    generalize collected rest = later, collected otherRest = otherLater at ih
    cases first with
    | values value =>
      cases ih with
      | values values => exact .values (.cons value values)
      | errors faults => exact .errors faults
    | errors fault =>
      cases ih with
      | values _ => exact .errors (.cons fault .nil)
      | errors faults => exact .errors (.cons fault faults)

/-- Dependencies lead to similar fields, or fail alike. -/
theorem Similar.dependencies (similar : left.Similar right) (source : String)
    (paths : List String) :
    OutcomesRelated (List.Forall₂ PathFault.Alike) (List.Forall₂ Field.Similar)
      (left.dependencies source paths) (right.dependencies source paths) := by
  apply collected_related
  rw [List.forall₂_map_left_iff, List.forall₂_map_right_iff]
  exact List.forall₂_same.mpr fun path _ => similar.resolve source path

/-- Similar fields are as many collections. -/
theorem collections_length_eq {fields others : List Field}
    (similar : List.Forall₂ Field.Similar fields others) :
    (fields.filter Field.isCollection).length = (others.filter Field.isCollection).length := by
  have same (field other : Field) (alike : field.Similar other) :
      field.isCollection = other.isCollection := by
    have collections := alike.collection
    rw [Field.isCollection, Field.isCollection]
    generalize field.collection = collection, other.collection = otherCollection at collections
    cases collections <;> rfl
  exact (List.rel_filter (fun _ _ alike => Bool.eq_iff_iff.mp (same _ _ alike)) similar).length_eq

/-- A computed field asks for the same method when its dependencies lead to similar fields. -/
theorem Similar.request_eq (similar : left.Similar right) (view : String) (field : FieldDecl)
    (computation : Computation) {fields others : List Field}
    (alike : List.Forall₂ Field.Similar fields others) :
    left.request view field computation fields = right.request view field computation others := by
  have declared : fields.map Field.declaredType = others.map Field.declaredType :=
    map_eq_of_forall₂ (fun _ _ same => same.declaredType) alike
  rw [request, request, similar.leads, declared]

/-- A computed field has the same derivation, or fails alike. -/
theorem Similar.derive (similar : left.Similar right) (view : String) (projection : Projection)
    (field : FieldDecl) (computation : Computation) :
    OutcomesRelated (List.Forall₂ ViewFault.Alike) Eq
      (left.derive view projection field computation)
      (right.derive view projection field computation) := by
  rw [ViewCompiler.derive, ViewCompiler.derive]
  by_cases empty : computation.dependencies.isEmpty
  · rw [if_pos empty, if_pos empty]
    exact .errors (.cons (.same _) .nil)
  · rw [if_neg empty, if_neg empty]
    have led := similar.dependencies projection.source computation.dependencies
    generalize left.dependencies projection.source computation.dependencies = result,
      right.dependencies projection.source computation.dependencies = other at led
    cases led with
    | errors faults =>
      apply OutcomesRelated.errors
      rw [List.forall₂_map_left_iff, List.forall₂_map_right_iff]
      exact faults.imp fun _ _ alike => .path alike
    | @values fields others alike =>
      have sameFaults (faults : List ViewFault) : List.Forall₂ ViewFault.Alike faults faults :=
        List.forall₂_same.mpr fun fault _ => .same fault
      dsimp only
      rw [collections_length_eq alike, similar.request_eq view field computation alike,
        similar.model]
      exact .refl sameFaults (fun _ => rfl) _

/-- A field of a view compiles to similar forms, or fails alike. -/
theorem Similar.compileField (similar : left.Similar right) (view : String)
    (projection : Projection) (field : FieldDecl) :
    OutcomesRelated (List.Forall₂ ViewFault.Alike) ViewField.Similar
      (left.compileField view projection field) (right.compileField view projection field) := by
  cases computed : field.computed with
  | none =>
    rw [compileField_copied computed, compileField_copied computed]
    have led := similar.resolve projection.source (field.path.getD field.name)
    generalize left.resolve projection.source (field.path.getD field.name) = result,
      right.resolve projection.source (field.path.getD field.name) = other at led
    cases led with
    | errors alike => exact .errors (.cons (.path alike) .nil)
    | values alike => exact .values (.copied ⟨rfl, rfl, alike.relatedType, alike.collection⟩)
  | some computation =>
    cases mapped : field.path with
    | some path =>
      rw [compileField_both computed mapped, compileField_both computed mapped]
      exact .errors (.cons (.same _) .nil)
    | none =>
      rw [compileField_computed computed mapped, compileField_computed computed mapped]
      have derived := similar.derive view projection field computation
      generalize left.derive view projection field computation = result,
        right.derive view projection field computation = other at derived
      cases derived with
      | errors alike => exact .errors alike
      | values same => exact .values (same ▸ .computed _)

/-- A field of a view has failures that are alike. -/
theorem Similar.fieldFailures (similar : left.Similar right) (view : String)
    (projection : Projection) (field : FieldDecl) :
    List.Forall₂ ViewFailure.Alike (left.fieldFailures view projection field)
      (right.fieldFailures view projection field) := by
  rw [ViewCompiler.fieldFailures, ViewCompiler.fieldFailures]
  have compiled := similar.compileField view projection field
  generalize left.compileField view projection field = result,
    right.compileField view projection field = other at compiled
  cases compiled with
  | values _ => exact .nil
  | errors faults =>
    dsimp only
    rw [List.forall₂_map_left_iff, List.forall₂_map_right_iff]
    exact faults.imp fun _ _ alike => ⟨rfl, alike⟩

/-- The fields that compile are similar. -/
theorem Similar.compiledFields (similar : left.Similar right) (view : String)
    (projection : Projection) (fields : List FieldDecl) :
    List.Forall₂ ViewField.Similar (left.compiledFields view projection fields)
      (right.compiledFields view projection fields) := by
  refine filterMap_related (fun field => ?_) fields
  have compiled := similar.compileField view projection field
  generalize left.compileField view projection field = result,
    right.compileField view projection field = other at compiled
  cases compiled with
  | values alike => exact .some alike
  | errors _ => exact .none

/-- Similar compiled fields have similar mappings and the same derivations, in order. -/
theorem parts_similar {compiled others : List ViewField}
    (similar : List.Forall₂ ViewField.Similar compiled others) :
    List.Forall₂ Mapping.Similar (compiled.filterMap ViewField.mapping?)
        (others.filterMap ViewField.mapping?) ∧
      compiled.filterMap ViewField.derivation? = others.filterMap ViewField.derivation? := by
  constructor
  · refine List.rel_filterMap (fun field other alike => ?_) similar
    cases alike with
    | copied mapping => exact .some mapping
    | computed _ => exact .none
  · rw [← List.forall₂_eq_eq_eq]
    refine List.rel_filterMap (fun field other alike => ?_) similar
    cases alike with
    | copied _ => exact .none
    | computed _ => exact .some rfl

/-- A view compiles to similar forms, or has failures that are alike. -/
theorem Similar.compile (similar : left.Similar right) (view : String) (projection : Projection) :
    OutcomesRelated (List.Forall₂ ViewFailure.Alike) View.Similar
      (left.compile view projection) (right.compile view projection) := by
  rw [ViewCompiler.compile, ViewCompiler.compile, similar.model,
    similar.registries.contains_eq projection.source]
  cases right.registry.contains projection.source with
  | false => exact .errors (.cons ⟨rfl, .same _⟩ .nil)
  | true =>
    have failures : List.Forall₂ ViewFailure.Alike
        ((right.model.mappedFields view).flatMap (left.fieldFailures view projection))
        ((right.model.mappedFields view).flatMap (right.fieldFailures view projection)) :=
      flatMap_related (similar.fieldFailures view projection) _
    have compiled :=
      similar.compiledFields view projection (right.model.mappedFields view)
    obtain ⟨mappings, derivations⟩ := parts_similar compiled
    simp only [Bool.not_true, Bool.false_eq_true, ↓reduceIte]
    generalize (right.model.mappedFields view).flatMap (left.fieldFailures view projection) =
        failed, (right.model.mappedFields view).flatMap (right.fieldFailures view projection) =
        otherFailed at failures
    cases failures with
    | nil => exact .values ⟨rfl, mappings, derivations, rfl⟩
    | cons first rest => exact .errors (.cons first rest)

/-- A declared type adds a similar compiled view under the same name, or none. -/
theorem Similar.compiledView? (similar : left.Similar right) (decl : TypeDecl) :
    Option.Rel (fun entry other => entry.1 = other.1 ∧ entry.2.Similar other.2)
      (left.compiledView? decl) (right.compiledView? decl) := by
  rw [ViewCompiler.compiledView?, ViewCompiler.compiledView?]
  cases decl.projection with
  | none => exact .none
  | some projection =>
    have outcome := similar.compile decl.name projection
    rw [Option.bind_some, Option.bind_some]
    generalize left.compile decl.name projection = result,
      right.compile decl.name projection = other at outcome
    cases outcome with
    | values view => exact .some ⟨rfl, view⟩
    | errors _ => exact .none

/-- A declared type is reported alike. -/
theorem Similar.viewReport (similar : left.Similar right) (decl : TypeDecl) :
    List.Forall₂ Diagnostic.Alike (left.viewReport decl) (right.viewReport decl) := by
  rw [ViewCompiler.viewReport, ViewCompiler.viewReport]
  cases decl.projection with
  | none => exact .nil
  | some projection =>
    have outcome := similar.compile decl.name projection
    rw [Option.elim_some, Option.elim_some]
    generalize left.compile decl.name projection = result,
      right.compile decl.name projection = other at outcome
    cases outcome with
    | values _ => exact .nil
    | @errors failures others alike =>
      have counted : droppedView decl.name failures = droppedView decl.name others := by
        rw [droppedView, droppedView, alike.length_eq]
      rw [outcomeReport, outcomeReport, counted]
      refine List.rel_append ?_ (.cons (.inl rfl) .nil)
      rw [List.forall₂_map_left_iff, List.forall₂_map_right_iff]
      exact alike.imp fun _ _ same => same.diagnostic

end ViewCompiler

/-- With other further scalars, the schema discovered from roots holds similar fields of the same
types, and the findings on it are the same. -/
theorem discoverSchema_similar (settings : CompilerSettings) (scalars : List String)
    (model : Model) (roots : List String) :
    (discoverSchema settings model roots).1.Related Field.Similar
        (discoverSchema { settings with extraScalars := scalars } model roots).1 ∧
      (discoverSchema settings model roots).2 =
        (discoverSchema { settings with extraScalars := scalars } model roots).2 :=
  discoverSchema_related settings { settings with extraScalars := scalars }
    (Classifier.inStep_similar rfl) roots

/-- With other further scalars, views are compiled similarly against similar schemas in which only
schema types are registered. -/
theorem viewCompiler_similar_of_registries {settings : CompilerSettings} (scalars : List String)
    {model : Model} {registry other : Registry}
    (registries : registry.Related Field.Similar other)
    (unregistered : ∀ name, ((settings.classifier model).kindOf name).role? = none →
      registry.lookup name = none) :
    ViewCompiler.Similar (settings.viewCompiler model registry)
      (CompilerSettings.viewCompiler { settings with extraScalars := scalars } model other) where
  kinds := Classifier.kindOf_similar rfl
  suggests := rfl
  registries := registries
  unregistered := unregistered
  model := rfl
  leads := rfl

/-- With other further scalars, views are compiled against similar schemas. -/
theorem viewCompiler_similar (settings : CompilerSettings) (scalars : List String)
    (model : Model) (roots : List String) :
    ViewCompiler.Similar
      (settings.viewCompiler model (discoverSchema settings model roots).1)
      (CompilerSettings.viewCompiler { settings with extraScalars := scalars } model
        (discoverSchema { settings with extraScalars := scalars } model roots).1) := by
  have unregistered (name : String)
      (roleless : ((settings.classifier model).kindOf name).role? = none) :
      (discoverSchema settings model roots).1.lookup name = none := by
    rw [Option.eq_none_iff_forall_ne_some]
    intro fields found
    obtain ⟨reachable, -⟩ := (discoverSchema_lookup_eq_some_iff ..).mp found
    exact Classifier.role?_eq_none_iff.mp roleless reachable.isSchemaType
  exact viewCompiler_similar_of_registries scalars
    (discoverSchema_similar settings scalars model roots).1 unregistered

namespace Compilation

/-- Further scalars change no acceptance. With any others in their place a compilation discovers
the same types with the same fields and compiles the same views, each in the same order; only the
kind of the elements of a collection may be unknown in one result and a scalar in the other. The
diagnostics are as many and on the same elements, and differ only in what is said of a path that
goes on behind a name that is a scalar for one setting and unknown for the other. -/
theorem run_extraScalars_similar (settings : CompilerSettings) (scalars : List String)
    (model : Model) :
    let compilation := run settings model
    let other := run { settings with extraScalars := scalars } model
    compilation.schema.Related Field.Similar other.schema ∧
      List.Forall₂ (fun entry otherEntry =>
          entry.1 = otherEntry.1 ∧ entry.2.Similar otherEntry.2)
        compilation.views other.views ∧
      List.Forall₂ Diagnostic.Alike compilation.diagnostics.items other.diagnostics.items ∧
      compilation.hasErrors = other.hasErrors := by
  intro compilation other
  obtain ⟨schemas, findings⟩ := discoverSchema_similar settings scalars model model.sources
  have similar := viewCompiler_similar settings scalars model model.sources
  have views : List.Forall₂ (fun entry otherEntry : String × View =>
      entry.1 = otherEntry.1 ∧ entry.2.Similar otherEntry.2) compilation.views other.views := by
    rw [run_views, run_views]
    exact filterMap_related similar.compiledView? model.views
  have diagnostics : List.Forall₂ Diagnostic.Alike compilation.diagnostics.items
      other.diagnostics.items := by
    rw [run_diagnostics, run_diagnostics, findings]
    refine List.rel_append (List.forall₂_same.mpr fun _ _ => .inl rfl) ?_
    exact flatMap_related similar.viewReport model.views
  exact ⟨schemas, views, diagnostics, Diagnostics.hasErrors_eq_of_alike diagnostics⟩

end Compilation

end SchemaProjection
