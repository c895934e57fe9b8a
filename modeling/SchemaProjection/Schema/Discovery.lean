import SchemaProjection.Model.Ancestry
import SchemaProjection.Schema.Finding
import SchemaProjection.Schema.Registry

/-!
# Discovery of schema types

A schema is discovered from root types. A schema type that has not been seen is given the fields
of its ancestry, and the schema types that its fields lead to are taken up after those that wait
already, so types are found in the order of their distance from the root. Seeing a type once is
enough, which is why types that refer to each other do no harm: each step either leaves fewer
declared types that have not been seen, or leaves fewer types that wait. The names that wait are
`pending` in `SchemaExtractor::extract`.
-/
namespace SchemaProjection

namespace Classifier

/-- `SchemaExtractor::describe` — what a declared field is in a schema type. A marker of an
identifier counts before one of a value object, and both count before the type; a relationship with
many targets is a collection of any type, and a container is a collection without a relationship. -/
def describe (classifier : Classifier) (field : FieldDecl) : Field :=
  if field.isIdentifier || field.isEmbeddedIdentifier then .identifier field.type
  else if field.isEmbedded then .single field.type
  else
    let container := Container.ofType? field.type
    let isToMany := field.relation.any fun relation => relation.cardinality.isToMany
    if isToMany || container.isSome then
      let element := ((field.type.element?.map TypeExpr.text).or
        (field.relation.bind Relation.target)).getD field.type.text
      .many field.type element
        ⟨classifier.kindOf element, container.getD .unknown,
          field.relation.bind Relation.mappedBy, field.ordering⟩
    else (Field.single field.type).mapping field.mapsIdentifier

/-- `SchemaExtractor::collect_fields` — the fields of a schema type. -/
def fieldsOf (classifier : Classifier) (name : String) : Table Field :=
  ⟨(classifier.model.persistentFields name).map fun field =>
      (field.name, classifier.describe field), by
    rw [List.map_map]
    exact Model.closest_names_nodup _⟩

/-- `SchemaExtractor::require_value_object` — the finding on a field that should hold a value object
and does not. -/
def embeddingFinding? (classifier : Classifier) (owner : String) (field : FieldDecl) :
    Option Finding :=
  if !field.isIdentifier && (field.isEmbeddedIdentifier || field.isEmbedded) &&
      classifier.kindOf field.type.text != .embeddableLike then
    some (.notAValueObject owner field.name field.type.text)
  else none

/-- `SchemaExtractor::declares_composite_identifier` — a type of whose ancestry some member names
the type of a composite identifier. -/
def hasComposite (classifier : Classifier) (name : String) : Bool :=
  (classifier.model.ancestry name).any fun decl => decl.identifierClass.isSome

/-- The identifiers of a schema type. -/
def identifiersOf (classifier : Classifier) (name : String) : List String :=
  ((classifier.fieldsOf name).entries.filter fun entry => entry.2.isIdentifier).map (·.1)

/-- `SchemaExtractor::check_identifiers` — the finding on the number of identifiers of an entity. -/
def identifierFinding? (classifier : Classifier) (name : String) : Option Finding :=
  let identifiers := classifier.identifiersOf name
  if identifiers.isEmpty then some (.missingIdentifier name)
  else if identifiers.length > 1 && !classifier.hasComposite name then
    some (.duplicateIdentifier name identifiers)
  else none

/-- The findings on a schema type: those on its fields in order, then for an entity the one on
its identifiers. -/
def findingsOf (classifier : Classifier) (role : Role) (name : String) : List Finding :=
  (classifier.model.persistentFields name).filterMap (classifier.embeddingFinding? name) ++
    if role = .entity then (classifier.identifierFinding? name).toList else []

/-- The schema types that the fields of a type lead to, in the order of the fields. -/
def relatedTypes (classifier : Classifier) (name : String) : List String :=
  ((classifier.fieldsOf name).entries.map fun entry => entry.2.relatedType).filter
    fun related => (classifier.kindOf related).isSchemaType

end Classifier

/-- `SchemaRegistryBuilder` — the names that have been seen and the types that have been found. -/
structure Discovery where
  /-- The names that are not looked at again. -/
  seen : List String
  /-- The fields of the schema types. -/
  registry : Registry

namespace Discovery

/-- Nothing has been discovered. -/
def empty : Discovery := ⟨[], .empty⟩

instance : Inhabited Discovery := ⟨empty⟩

/-- `SchemaRegistryBuilder::is_seen` — whether a name is not looked at again. -/
def isSeen (discovery : Discovery) (name : String) : Bool := discovery.seen.contains name

/-- The names that are not looked at again are those that have been seen. -/
theorem isSeen_iff {discovery : Discovery} {name : String} :
    discovery.isSeen name = true ↔ name ∈ discovery.seen := by
  rw [isSeen, List.contains_iff_mem]

/-- `SchemaRegistryBuilder::mark_seen` — see a name. -/
def see (discovery : Discovery) (name : String) : Discovery :=
  { discovery with seen := name :: discovery.seen }

/-- `SchemaRegistryBuilder::insert` — add the fields of a type without seeing it. -/
def add (discovery : Discovery) (role : Role) (name : String) (fields : Table Field) :
    Discovery :=
  { discovery with registry := discovery.registry.add role name fields }

end Discovery

namespace Classifier

/-- A type with a role is declared. -/
theorem role?_declared {classifier : Classifier} {name : String} {role : Role}
    (known : (classifier.kindOf name).role? = some role) :
    ∃ decl ∈ classifier.model.types, decl.name = name := by
  have schemaType : (classifier.kindOf name).isSchemaType := by
    cases kind : classifier.kindOf name <;> simp_all [Kind.role?, Kind.isSchemaType]
  obtain ⟨decl, found⟩ := isSchemaType_declared schemaType
  exact ⟨decl, Model.lookup_mem found, Model.lookup_name found⟩

/-- What a name is once it is taken up: seen, and added with its fields. -/
def takeUp (classifier : Classifier) (discovery : Discovery) (role : Role) (name : String) :
    Discovery :=
  (discovery.see name).add role name (classifier.fieldsOf name)

/-- The schema types that a name leads to and that have not been seen when it is taken up. -/
def newlyRelated (classifier : Classifier) (discovery : Discovery) (name : String) :
    List String :=
  (classifier.relatedTypes name).filter fun other => !(discovery.see name).isSeen other

/-- What has been discovered, and the names that wait. -/
structure Stage where
  /-- What has been discovered. -/
  discovery : Discovery
  /-- The names that wait, in order. -/
  waiting : List String

/-- The body of the loop in `SchemaExtractor::extract`, for the name that waits first and those
behind it: a name that has been seen or that has no role is passed over; any other is taken up, and
what it leads to waits behind the others. -/
def turn (classifier : Classifier) (discovery : Discovery) (name : String) (rest : List String) :
    Stage × List Finding :=
  if discovery.isSeen name then (⟨discovery, rest⟩, [])
  else
    match (classifier.kindOf name).role? with
    | none => (⟨discovery, rest⟩, [])
    | some role =>
      (⟨classifier.takeUp discovery role name, rest ++ classifier.newlyRelated discovery name⟩,
        classifier.findingsOf role name)

/-- The declared types that have not been seen, and the names that wait. -/
def Stage.remaining (stage : Stage) (classifier : Classifier) : Nat × Nat :=
  ((classifier.model.others stage.discovery.seen).length, stage.waiting.length)

/-- A turn leaves fewer declared types that have not been seen, or as many and fewer names that
wait. -/
theorem turn_decreases (classifier : Classifier) (discovery : Discovery) (name : String)
    (rest : List String) :
    Prod.Lex (· < ·) (· < ·) ((classifier.turn discovery name rest).1.remaining classifier)
      ((Stage.mk discovery (name :: rest)).remaining classifier) := by
  have fewer : Prod.Lex (· < ·) (· < ·) ((Stage.mk discovery rest).remaining classifier)
      ((Stage.mk discovery (name :: rest)).remaining classifier) :=
    .right _ (Nat.lt_succ_self _)
  rw [turn]
  split
  next known => exact fewer
  next fresh =>
    split
    next other => exact fewer
    next role taken =>
      obtain ⟨decl, declared, rfl⟩ := role?_declared taken
      have unseen : decl.name ∉ discovery.seen := mt Discovery.isSeen_iff.mpr fresh
      exact .left _ _ (Model.others_cons_length_lt declared unseen)

/-- The loop of `SchemaExtractor::extract` — take up the waiting names in order, with what has been
discovered and the findings. -/
def visit (classifier : Classifier) (discovery : Discovery) (waiting : List String) :
    Discovery × List Finding :=
  match waiting with
  | [] => (discovery, [])
  | name :: rest =>
    let next := classifier.turn discovery name rest
    let after := classifier.visit next.1.discovery next.1.waiting
    (after.1, next.2 ++ after.2)
termination_by ((classifier.model.others discovery.seen).length, waiting.length)
decreasing_by exact classifier.turn_decreases discovery name rest

/-- `SchemaExtractor::extract` — discover the schema types that a root leads to. -/
def discover (classifier : Classifier) (discovery : Discovery) (root : String) :
    Discovery × List Finding :=
  classifier.visit discovery [root]

/-- The loop of `CompilationUnit::extract_with` — discover the schema types that roots lead to, one
root after the other. -/
def discoverAll (classifier : Classifier) (discovery : Discovery) :
    List String → Discovery × List Finding
  | [] => (discovery, [])
  | root :: rest =>
    let first := classifier.discover discovery root
    let after := classifier.discoverAll first.1 rest
    (after.1, first.2 ++ after.2)

end Classifier

end SchemaProjection
