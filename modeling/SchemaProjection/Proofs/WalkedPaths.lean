import SchemaProjection.Proofs.Resolution
import SchemaProjection.Proofs.Walks

/-!
# Paths are walks

A path that leads to a registered type goes over registered types, so it follows the edges of the
graph of the registry. Conversely a walk gives a path when the fields that it follows are put
between dots: a registered type is no scalar, so a path may go on behind it, and a field whose
name holds no dot is one segment.
-/
namespace SchemaProjection

/-- No field of a declared type has a dot in its name. -/
def Model.UndottedFields (model : Model) : Prop :=
  ∀ decl ∈ model.types, ∀ field ∈ decl.fields, Text.pathSeparator ∉ field.name.toList

/-- The fields of a type in a schema have the names of declared fields. -/
theorem Classifier.exists_declared_of_mem_fieldsOf {classifier : Classifier} {type name : String}
    {field : Field} (listed : (name, field) ∈ (classifier.fieldsOf type).entries) :
    ∃ decl ∈ classifier.model.types, ∃ declared ∈ decl.fields, declared.name = name := by
  obtain ⟨declared, persistent, same⟩ := List.mem_map.mp listed
  have closest := Model.mem_effectiveFields_iff.mp persistent
  obtain ⟨decl, inherited, held⟩ := List.mem_flatMap.mp (List.mem_of_find?_eq_some closest)
  exact ⟨decl, Model.mem_types_of_mem_ancestry inherited, declared, held,
    congrArg Prod.fst same⟩

namespace Navigation

variable {navigation : Navigation}

/-- Segments lead somewhere only from a registered type. -/
theorem contains_of_follow {path type segment : String} {rest : List String} {field : Field}
    (leads : navigation.follow path type segment rest = .ok field) :
    navigation.registry.contains type = true := by
  have looked : ∃ first, navigation.registry.field? type segment = some first := by
    cases rest with
    | nil => exact ⟨field, fieldAt_eq_ok_iff_field?.mp leads⟩
    | cons next rest =>
      obtain ⟨first, looked, -⟩ := follow_cons_eq_ok_iff.mp leads
      exact ⟨first, looked⟩
  obtain ⟨first, looked⟩ := looked
  obtain ⟨fields, found, -⟩ := Option.bind_eq_some_iff.mp looked
  rw [Registry.contains, found]
  rfl

/-- Segments that lead to a field of a registered type follow edges to it. -/
theorem walk_of_follow (apart : navigation.registry.Apart) {path type segment : String}
    {rest : List String} {field : Field}
    (leads : navigation.follow path type segment rest = .ok field)
    (registered : navigation.registry.contains field.relatedType = true) :
    (SchemaGraph.ofRegistry navigation.registry).Walk type field.relatedType := by
  induction rest generalizing type segment with
  | nil =>
    have looked := fieldAt_eq_ok_iff_field?.mp leads
    exact .single ((SchemaGraph.adjacent_iff_of_apart apart).mpr
      ⟨registered, segment, field, looked, rfl⟩)
  | cons next rest ih =>
    obtain ⟨behind, looked, -, further⟩ := follow_cons_eq_ok_iff.mp leads
    have edge : (SchemaGraph.ofRegistry navigation.registry).Adjacent type behind.relatedType :=
      (SchemaGraph.adjacent_iff_of_apart apart).mpr
        ⟨contains_of_follow further, segment, behind, looked, rfl⟩
    exact .head edge (ih further)

/-- A path goes on behind a field whose name is one segment, unless the field is a scalar. -/
theorem resolve_behind_field {type name path : String} {behind field : Field}
    (undotted : Text.pathSeparator ∉ name.toList)
    (looked : navigation.registry.field? type name = some behind)
    (goes : navigation.classifier.kindOf behind.relatedType ≠ .scalar)
    (leads : navigation.resolve behind.relatedType path = .ok field) :
    navigation.resolve type (name ++ "." ++ path) = .ok field := by
  obtain ⟨segment, rest, divided⟩ := List.exists_cons_of_ne_nil (Text.segments_ne_nil path)
  rw [resolve, divided] at leads
  rw [resolve, Text.segments_append, Text.segments_of_undotted undotted, divided]
  exact follow_cons_eq_ok_iff.mpr ⟨behind, looked, goes, (follow_eq_ok_congr path _).mp leads⟩

/-- Walks can be written as paths: the fields of a type are those that a lookup finds, their names
are segments, and no registered type is a scalar. -/
structure Walkable (navigation : Navigation) : Prop where
  /-- No name stands in both halves of the registry. -/
  apart : navigation.registry.Apart
  /-- No field has a dot in its name. -/
  undotted : ∀ type name field, navigation.registry.field? type name = some field →
    Text.pathSeparator ∉ name.toList
  /-- Paths go on behind registered types. -/
  followed : ∀ type, navigation.registry.contains type = true →
    navigation.classifier.kindOf type ≠ .scalar

/-- Where walks can be written as paths, a walk gives a path. -/
theorem Walkable.exists_path (walkable : navigation.Walkable) {source target : String}
    (walk : (SchemaGraph.ofRegistry navigation.registry).Walk source target) :
    ∃ path field, navigation.resolve source path = .ok field ∧ field.relatedType = target := by
  induction walk using Relation.TransGen.head_induction_on with
  | single edge =>
    obtain ⟨-, name, field, looked, rfl⟩ :=
      (SchemaGraph.adjacent_iff_of_apart walkable.apart).mp edge
    refine ⟨name, field, ?_, rfl⟩
    rw [resolve, Text.segments_of_undotted (walkable.undotted _ name field looked)]
    exact fieldAt_eq_ok_iff_field?.mpr looked
  | head edge _ ih =>
    obtain ⟨registered, name, behind, looked, rfl⟩ :=
      (SchemaGraph.adjacent_iff_of_apart walkable.apart).mp edge
    obtain ⟨path, field, leads, related⟩ := ih
    have undotted := walkable.undotted _ name behind looked
    exact ⟨name ++ "." ++ path, field,
      resolve_behind_field undotted looked (walkable.followed _ registered) leads, related⟩

/-- Where walks can be written as paths, a walk leads to a registered type exactly when a path
does. -/
theorem Walkable.walk_iff_path (walkable : navigation.Walkable) {source target : String}
    (registered : navigation.registry.contains target = true) :
    (SchemaGraph.ofRegistry navigation.registry).Walk source target ↔
      ∃ path, (navigation.resolve source path).map Field.relatedType = .ok target := by
  constructor
  · intro walk
    obtain ⟨path, field, leads, rfl⟩ := walkable.exists_path walk
    exact ⟨path, by rw [leads]; rfl⟩
  · rintro ⟨path, leads⟩
    cases resolved : navigation.resolve source path with
    | error fault =>
      rw [resolved] at leads
      cases leads
    | ok field =>
      rw [resolved] at leads
      obtain rfl : field.relatedType = target := Except.ok.inj leads
      obtain ⟨segment, rest, divided⟩ := List.exists_cons_of_ne_nil (Text.segments_ne_nil path)
      rw [resolve, divided] at resolved
      exact walk_of_follow walkable.apart resolved registered

end Navigation

/-- In a discovered schema no name stands in both halves. -/
theorem discoverSchema_apart (settings : CompilerSettings) (model : Model) (roots : List String) :
    (discoverSchema settings model roots).1.Apart := by
  obtain ⟨discovery, faithful, same, -⟩ := discoverSchema_registry settings model roots
  rw [same]
  exact .of_kinds
    (fun _ _ found => ((Classifier.find?_of_entriesOf faithful.entities).mp found).2.1)
    fun _ _ found => ((Classifier.find?_of_entriesOf faithful.embeddables).mp found).2.1

/-- In a discovered schema the reachable types have their persistent fields. -/
theorem discoverSchema_field?_of_mem (settings : CompilerSettings) (model : Model)
    {roots : List String} {type : String} {field : FieldDecl}
    (reachable : (settings.classifier model).Reachable roots type)
    (persistent : field ∈ model.persistentFields type) :
    (discoverSchema settings model roots).1.field? type field.name =
      some ((settings.classifier model).describe field) := by
  have found := (discoverSchema_lookup_eq_some_iff settings model roots).mpr ⟨reachable, rfl⟩
  rw [Registry.field?, found, Option.bind_some, Table.find?_eq_some_iff]
  exact List.mem_map_of_mem persistent

/-- Where no declared field has a dot in its name, walks in a discovered schema can be written as
paths. -/
theorem discoverSchema_walkable (settings : CompilerSettings) {model : Model}
    (undotted : model.UndottedFields) (roots : List String) (suggests : Bool) :
    Navigation.Walkable
      ⟨settings.classifier model, (discoverSchema settings model roots).1, suggests⟩ where
  apart := discoverSchema_apart settings model roots
  undotted type name field looked := by
    obtain ⟨fields, found, entry⟩ := Option.bind_eq_some_iff.mp looked
    obtain ⟨-, rfl⟩ := (discoverSchema_lookup_eq_some_iff settings model roots).mp found
    obtain ⟨decl, declared, held, listed, rfl⟩ :=
      Classifier.exists_declared_of_mem_fieldsOf (Table.find?_eq_some_iff.mp entry)
    exact undotted decl declared held listed
  followed type registered scalar := by
    have schemaType : (settings.classifier model).IsSchemaType type :=
      ((discoverSchema_contains_iff settings model roots type).mp registered).isSchemaType
    simp [Classifier.IsSchemaType, scalar] at schemaType

/-- The graph of a discovered schema and the paths in it agree. Where no field has a dot in its
name, a walk of one or more edges leads from a registered type to another exactly when a path from
the one leads to the other; so a type belongs to a cycle exactly when a path leads from it back to
it. -/
theorem discoverSchema_walk_iff_path (settings : CompilerSettings) {model : Model}
    (undotted : model.UndottedFields) (roots : List String) (suggests : Bool) :
    let registry := (discoverSchema settings model roots).1
    let graph := SchemaGraph.ofRegistry registry
    let navigation : Navigation := ⟨settings.classifier model, registry, suggests⟩
    (∀ source target, registry.contains source = true → registry.contains target = true →
        (graph.Walk source target ↔
          ∃ path, (navigation.resolve source path).map Field.relatedType = .ok target)) ∧
      ∀ type, registry.contains type = true →
        ((∃ group ∈ graph.cycles, type ∈ group) ↔
          ∃ path, (navigation.resolve type path).map Field.relatedType = .ok type) := by
  intro registry graph navigation
  have walkable : navigation.Walkable := discoverSchema_walkable settings undotted roots suggests
  refine ⟨fun source target _ registered => walkable.walk_iff_path registered, ?_⟩
  intro type registered
  rw [SchemaGraph.exists_mem_cycles_iff (SchemaGraph.endsInside_ofRegistry registry)]
  exact walkable.walk_iff_path registered

/-- Orders and customers refer to each other, so the path from an order over its customer to the
orders of the customer is a walk, and orders belong to a cycle. -/
theorem customerOrders_order_in_cycle :
    customerOrders.UndottedFields ∧
      let registry := (discoverSchema .standard customerOrders ["Order"]).1
      let graph := SchemaGraph.ofRegistry registry
      let navigation : Navigation :=
        ⟨CompilerSettings.standard.classifier customerOrders, registry, true⟩
      registry.contains "Order" = true ∧
        (navigation.resolve "Order" "customer.orders").map Field.relatedType = .ok "Order" ∧
        graph.Walk "Order" "Order" ∧ ∃ group ∈ graph.cycles, "Order" ∈ group := by
  have undotted : customerOrders.UndottedFields := by
    unfold Model.UndottedFields
    decide
  have orderAncestry : customerOrders.ancestry "Order" = [customerOrder] :=
    Model.ancestry_of_parentless rfl rfl
  have customerAncestry : customerOrders.ancestry "Customer" = [customer] :=
    Model.ancestry_of_parentless rfl rfl
  have toCustomer : Compilation.plainField "customer" (.named "Customer") ∈
      customerOrders.persistentFields "Order" := by
    rw [Model.persistentFields, Model.mem_effectiveFields_iff, Model.IsClosest, orderAncestry]
    decide
  have toOrders : Compilation.plainField "orders" (.generic "List" [.named "Order"]) ∈
      customerOrders.persistentFields "Customer" := by
    rw [Model.persistentFields, Model.mem_effectiveFields_iff, Model.IsClosest, customerAncestry]
    decide
  let classifier := CompilerSettings.standard.classifier customerOrders
  have order : classifier.Reachable ["Order"] "Order" :=
    Classifier.reachable_root List.mem_cons_self (.inl (by decide))
  have customers : classifier.Reachable ["Order"] "Customer" :=
    order.step ⟨.inl (by decide), _, toCustomer, by decide⟩
  refine ⟨undotted, ?_⟩
  intro registry graph navigation
  have registered : registry.contains "Order" = true :=
    (discoverSchema_contains_iff .standard customerOrders ["Order"] "Order").mpr order
  have path : navigation.resolve "Order" "customer.orders" =
      .ok (classifier.describe (Compilation.plainField "orders"
        (.generic "List" [.named "Order"]))) :=
    Navigation.follow_cons_eq_ok_iff.mpr
      ⟨_, discoverSchema_field?_of_mem .standard customerOrders order toCustomer, by decide,
        Navigation.fieldAt_eq_ok_iff_field?.mpr
          (discoverSchema_field?_of_mem .standard customerOrders customers toOrders)⟩
  have back : (navigation.resolve "Order" "customer.orders").map Field.relatedType =
      .ok "Order" := by
    rw [path]
    decide
  obtain ⟨walks, cycles⟩ := discoverSchema_walk_iff_path .standard undotted ["Order"] true
  exact ⟨registered, back, (walks _ _ registered registered).mpr ⟨_, back⟩,
    (cycles _ registered).mpr ⟨_, back⟩⟩

end SchemaProjection
