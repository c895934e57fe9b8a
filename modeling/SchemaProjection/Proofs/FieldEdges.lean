import Mathlib.Data.String.Basic
import SchemaProjection.Proofs.DrawnGraph

/-!
# Edges of fields

The edges of a graph are drawn by looking names up in a registry, and the fields in it were
described by the kinds of names. In a registry that holds whatever its fields lead to, each type in
the half of its kind (`Registry.Complete`), the two agree: a field has an edge exactly when its
related type is a schema type, and the kind of the edge follows from the kind of that type
(`Classifier.edgeOf?`). Since no type has two fields of one name, and no name two types, a field has
one edge at most, and the edges of a type are just those of its fields.
-/
namespace SchemaProjection

namespace Classifier

/-- The edge of a field by the kind of the type that it leads to. -/
def edgeOf? (classifier : Classifier) (source name : String) (field : Field) : Option Edge :=
  let edge (single : EdgeKind) : Edge :=
    ⟨source, ⟨name, if field.isCollection then .collection else single⟩, field.relatedType⟩
  match classifier.kindOf field.relatedType with
  | .entityLike => some (edge .reference)
  | .embeddableLike => some (edge .embedded)
  | .scalar | .unknown => none

/-- The fields of a table that lead to schema types. -/
def leadingFields (classifier : Classifier) (fields : Table Field) : List (String × Field) :=
  fields.entries.filter fun entry => (classifier.kindOf entry.2.relatedType).isSchemaType

/-- The names of the fields that lead to schema types, with the types that they lead to. -/
def fieldTargets (classifier : Classifier) (fields : Table Field) : List (String × String) :=
  (classifier.leadingFields fields).map fun (name, field) => (name, field.relatedType)

/-- The edges of the fields of a type. -/
def edgesOf (classifier : Classifier) (type : String) (fields : Table Field) : List Edge :=
  fields.entries.filterMap fun (name, field) => classifier.edgeOf? type name field

variable {classifier : Classifier} {source name : String} {field : Field}

/-- A field has an edge exactly when it leads to a schema type. -/
theorem isSome_edgeOf? :
    (classifier.edgeOf? source name field).isSome =
      (classifier.kindOf field.relatedType).isSchemaType := by
  rw [edgeOf?]
  cases classifier.kindOf field.relatedType <;> rfl

/-- The edge of a field has its ends and its name. -/
theorem edgeOf?_eq_some {edge : Edge} (drawn : classifier.edgeOf? source name field = some edge) :
    edge.source = source ∧ edge.label.field = name ∧ edge.target = field.relatedType := by
  rw [edgeOf?] at drawn
  cases kind : classifier.kindOf field.relatedType <;> simp only [kind] at drawn <;> cases drawn <;>
    exact ⟨rfl, rfl, rfl⟩

/-- The edges of the fields of a type go out from it. -/
theorem source_of_mem_edgesOf {type : String} {fields : Table Field} {edge : Edge}
    (drawn : edge ∈ classifier.edgesOf type fields) : edge.source = type := by
  obtain ⟨⟨name, field⟩, -, found⟩ := List.mem_filterMap.mp drawn
  exact (edgeOf?_eq_some found).1

/-- There are as many edges of a type as fields of it that lead to schema types. -/
theorem length_edgesOf (type : String) (fields : Table Field) :
    (classifier.edgesOf type fields).length = (classifier.leadingFields fields).length := by
  rw [edgesOf, List.length_filterMap_eq_countP, List.countP_eq_length_filter,
    leadingFields]
  simp only [isSome_edgeOf?]

/-- The edges of a type lead to what its fields are related to. -/
theorem map_edgesOf (type : String) (fields : Table Field) :
    ((classifier.edgesOf type fields).map fun edge => (edge.label.field, edge.target)) =
      classifier.fieldTargets fields := by
  rw [edgesOf, List.map_filterMap, fieldTargets, leadingFields,
    ← List.filterMap_eq_map, List.filterMap_filter]
  refine List.filterMap_congr ?_
  rintro ⟨name, field⟩ -
  have drawn : (classifier.edgeOf? type name field).isSome = _ := isSome_edgeOf?
  dsimp only
  rw [← drawn]
  cases found : classifier.edgeOf? type name field with
  | none => rfl
  | some edge =>
    obtain ⟨-, same, ends⟩ := edgeOf?_eq_some found
    simp [same, ends]

/-- The elements of a collection are described by the kind of the type that it leads to. -/
theorem kind_of_describe_collection {declared : FieldDecl} {collection : Collection}
    (elements : (classifier.describe declared).collection = some collection) :
    collection.kind = classifier.kindOf (classifier.describe declared).relatedType := by
  rw [describe] at elements ⊢
  dsimp only at elements ⊢
  split_ifs at elements ⊢
  · cases elements
  · cases elements
  · cases elements
    rfl
  · cases elements

end Classifier

namespace Registry

/-- A registry holds what its fields lead to: the types stand in the halves of their kinds, schema
types to which fields lead are among them, and the elements of collections have the kinds of the
related types. -/
structure Complete (registry : Registry) (classifier : Classifier) : Prop where
  /-- The types stand in the halves of their kinds. -/
  kinds : ∀ role name fields, (role, name, fields) ∈ registry.types →
    (classifier.kindOf name).role? = some role
  /-- The fields of the types lead to no schema type outside. -/
  closed : ∀ type name field, registry.field? type name = some field →
    classifier.IsSchemaType field.relatedType → registry.contains field.relatedType = true
  /-- Collections have the kinds of what they lead to. -/
  elements : ∀ type name field collection, registry.field? type name = some field →
    field.collection = some collection → collection.kind = classifier.kindOf field.relatedType

variable {registry : Registry} {classifier : Classifier}

namespace Complete

/-- No name stands in both halves, since the halves are of different kinds. -/
theorem apart (complete : registry.Complete classifier) : registry.Apart :=
  .of_kinds
    (fun name fields found => Kind.role?_eq_entity_iff.mp <|
      complete.kinds .entity name fields <| List.mem_append_left _ <|
        List.mem_map_of_mem (Table.find?_eq_some_iff.mp found))
    fun name fields found => Kind.role?_eq_embeddable_iff.mp <|
      complete.kinds .embeddable name fields <| List.mem_append_right _ <|
        List.mem_map_of_mem (Table.find?_eq_some_iff.mp found)

/-- A type is drawn in the half in which it stands. -/
theorem drawnRole_eq (complete : registry.Complete classifier) {role : Role} {name : String}
    {fields : Table Field} (held : (role, name, fields) ∈ registry.types) :
    SchemaGraph.drawnRole registry name = role := by
  have contains : registry.embeddables.contains name = true ↔ name ∈ registry.embeddables.names :=
    Table.isSome_find?_iff
  rw [SchemaGraph.drawnRole]
  rcases List.mem_append.mp held with entity | embeddable
  · obtain ⟨⟨_, _⟩, listed, same⟩ := List.mem_map.mp entity
    cases same
    exact if_neg (mt contains.mp (complete.apart _ (List.mem_map_of_mem listed)))
  · obtain ⟨⟨_, _⟩, listed, same⟩ := List.mem_map.mp embeddable
    cases same
    exact if_pos (contains.mpr (List.mem_map_of_mem listed))

/-- A registered type is drawn in the half of its kind. -/
theorem role?_eq_drawnRole (complete : registry.Complete classifier) {name : String}
    (registered : registry.contains name = true) :
    (classifier.kindOf name).role? = some (SchemaGraph.drawnRole registry name) := by
  obtain ⟨fields, found⟩ := Option.isSome_iff_exists.mp registered
  obtain ⟨role, held⟩ := complete.apart.mem_types_iff.mpr found
  rw [complete.drawnRole_eq held]
  exact complete.kinds role name fields held

/-- What a field leads to is registered exactly when it is a schema type. -/
theorem contains_related_iff (complete : registry.Complete classifier) {type name : String}
    {field : Field} (found : registry.field? type name = some field) :
    registry.contains field.relatedType = true ↔ classifier.IsSchemaType field.relatedType :=
  ⟨fun registered => Classifier.isSchemaType_of_role? (complete.role?_eq_drawnRole registered),
    complete.closed type name field found⟩

/-- A field is drawn by the kind of the type that it leads to. -/
theorem edge?_eq (complete : registry.Complete classifier) {type name : String} {field : Field}
    (found : registry.field? type name = some field) :
    SchemaGraph.edge? registry type name field = classifier.edgeOf? type name field := by
  have related := complete.contains_related_iff found
  rw [SchemaGraph.edge?, Classifier.edgeOf?]
  by_cases registered : registry.contains field.relatedType = true
  · have role := complete.role?_eq_drawnRole registered
    rw [if_pos registered]
    cases drawn : SchemaGraph.drawnRole registry field.relatedType with
    | entity =>
      rw [drawn, Kind.role?_eq_entity_iff] at role
      simp only [role]
    | embeddable =>
      rw [drawn, Kind.role?_eq_embeddable_iff] at role
      simp only [role]
  · have other : (classifier.kindOf field.relatedType).role? = none :=
      Classifier.role?_eq_none_iff.mpr (mt related.mpr registered)
    rw [if_neg registered]
    cases kind : classifier.kindOf field.relatedType <;> simp_all [Kind.role?]

end Complete

end Registry

/-- Where all parts but that of one member are empty, this is all there is. -/
theorem flatMap_eq_of_unique {α β : Type} {key : α → String} {members : List α}
    {parts : α → List β} {member : α} (unique : (members.map key).Nodup) (held : member ∈ members)
    (elsewhere : ∀ other, key other ≠ key member → parts other = []) :
    members.flatMap parts = parts member := by
  obtain ⟨front, back, rfl⟩ := List.append_of_mem held
  rw [List.map_append, List.map_cons, List.nodup_middle, List.nodup_cons,
    ← List.map_append] at unique
  have others : ∀ other ∈ front ++ back, parts other = [] := fun other listed =>
    elsewhere other fun same => unique.1 (same ▸ List.mem_map_of_mem listed)
  rw [List.forall_mem_append] at others
  rw [List.flatMap_append, List.flatMap_cons, List.flatMap_eq_nil_iff.mpr others.1,
    List.flatMap_eq_nil_iff.mpr others.2, List.nil_append, List.append_nil]

/-- Neighbours are ranked by the names of the fields, and then by the types that these lead to. -/
theorem SchemaGraph.neighbors_ranked (graph : SchemaGraph) (type : String) :
    (graph.neighbors type).Pairwise fun left right =>
      left.1 < right.1 ∨ left.1 = right.1 ∧ left.2 ≤ right.2 := by
  have ranked := @List.pairwise_mergeSort (String × String)
    (fun left right => left.1 < right.1 || (left.1 == right.1 && left.2 ≤ right.2))
    (by
      simp only [Bool.or_eq_true, Bool.and_eq_true, decide_eq_true_eq, beq_iff_eq]
      rintro ⟨first, _⟩ ⟨second, _⟩ ⟨third, _⟩ (before | ⟨rfl, below⟩) (behind | ⟨rfl, above⟩)
      · exact .inl (before.trans behind)
      · exact .inl before
      · exact .inl behind
      · exact .inr ⟨rfl, below.trans above⟩)
    (by
      simp only [Bool.or_eq_true, Bool.and_eq_true, decide_eq_true_eq, beq_iff_eq]
      rintro ⟨first, start⟩ ⟨second, finish⟩
      rcases lt_trichotomy first second with before | rfl | behind
      · exact .inl (.inl before)
      · exact (le_total start finish).imp (fun below => .inr ⟨rfl, below⟩)
          fun above => .inr ⟨rfl, above⟩
      · exact .inr (.inl behind))
  refine (ranked _).imp fun before => ?_
  simpa only [Bool.or_eq_true, Bool.and_eq_true, decide_eq_true_eq, beq_iff_eq] using before

namespace Registry.Complete

variable {registry : Registry} {classifier : Classifier}

/-- The edges of a graph are those of the fields of its types. -/
theorem edges_eq (complete : registry.Complete classifier) :
    (SchemaGraph.ofRegistry registry).edges =
      registry.types.flatMap fun type => classifier.edgesOf type.2.1 type.2.2 := by
  rw [SchemaGraph.ofRegistry]
  refine List.flatMap_congr ?_
  rintro ⟨role, type, fields⟩ held
  refine List.filterMap_congr ?_
  rintro ⟨name, field⟩ listed
  have looked := complete.apart.mem_types_iff.mp ⟨role, held⟩
  exact complete.edge?_eq (Option.bind_eq_some_iff.mpr
    ⟨fields, looked, Table.find?_eq_some_iff.mpr listed⟩)

/-- The edges that go out from a type are those of its fields. -/
theorem filter_edges_source (complete : registry.Complete classifier) {type : String}
    {fields : Table Field} (found : registry.lookup type = some fields) :
    (SchemaGraph.ofRegistry registry).edges.filter (·.source == type) =
      classifier.edgesOf type fields := by
  obtain ⟨role, held⟩ := complete.apart.mem_types_iff.mpr found
  have names : (registry.types.map fun type => type.2.1).Nodup := by
    simpa [SchemaGraph.names, SchemaGraph.ofRegistry, Function.comp_def] using
      SchemaGraph.nodup_names_ofRegistry complete.apart
  rw [complete.edges_eq, List.filter_flatMap, flatMap_eq_of_unique names held]
  · rw [List.filter_eq_self]
    intro edge drawn
    exact beq_iff_eq.mpr (Classifier.source_of_mem_edgesOf drawn)
  · rintro ⟨role, other, others⟩ differs
    rw [List.filter_eq_nil_iff]
    intro edge drawn
    rw [beq_iff_eq, Classifier.source_of_mem_edgesOf drawn]
    exact differs

/-- The edges of one field are its edge, if it has one. -/
theorem filter_edges_field (complete : registry.Complete classifier) {type name : String}
    {fields : Table Field} {field : Field} (found : registry.lookup type = some fields)
    (looked : fields.find? name = some field) :
    ((SchemaGraph.ofRegistry registry).edges.filter fun edge =>
        edge.source = type ∧ edge.label.field = name) =
      (classifier.edgeOf? type name field).toList := by
  have outgoing : ((SchemaGraph.ofRegistry registry).edges.filter fun edge =>
      edge.source = type ∧ edge.label.field = name) =
        (classifier.edgesOf type fields).filter fun edge => edge.label.field = name := by
    rw [← complete.filter_edges_source found, List.filter_filter]
    refine List.filter_congr fun edge _ => ?_
    rw [Bool.eq_iff_iff]
    simp [and_comm]
  have listed := Table.find?_eq_some_iff.mp looked
  rw [outgoing, Classifier.edgesOf, List.filterMap_eq_flatMap_toList, List.filter_flatMap,
    flatMap_eq_of_unique fields.unique listed]
  · rw [List.filter_eq_self]
    intro edge drawn
    have labelled := (Classifier.edgeOf?_eq_some (Option.mem_toList.mp drawn)).2.1
    simpa using labelled
  · rintro ⟨other, field⟩ differs
    rw [List.filter_eq_nil_iff]
    intro edge drawn
    rw [decide_eq_true_eq, (Classifier.edgeOf?_eq_some (Option.mem_toList.mp drawn)).2.1]
    exact differs

/-- The neighbours of a type are what its fields lead to, none of them lost. -/
theorem neighbors_perm (complete : registry.Complete classifier) {type : String}
    {fields : Table Field} (found : registry.lookup type = some fields) :
    ((SchemaGraph.ofRegistry registry).neighbors type).Perm (classifier.fieldTargets fields) := by
  rw [SchemaGraph.neighbors, complete.filter_edges_source found, Classifier.map_edgesOf]
  exact List.mergeSort_perm _ _

/-- The neighbours of a type ascend by the names of the fields. -/
theorem neighbors_ascend (complete : registry.Complete classifier) {type : String}
    {fields : Table Field} (found : registry.lookup type = some fields) :
    ((SchemaGraph.ofRegistry registry).neighbors type).Pairwise fun left right =>
      left.1 < right.1 := by
  have apart : (((SchemaGraph.ofRegistry registry).neighbors type).map Prod.fst).Nodup := by
    rw [((complete.neighbors_perm found).map Prod.fst).nodup_iff, Classifier.fieldTargets,
      List.map_map]
    exact fields.unique.sublist (List.filter_sublist.map _)
  have ranked := SchemaGraph.neighbors_ranked (SchemaGraph.ofRegistry registry) type
  refine ranked.imp₂ (fun _ _ before differ => ?_) (List.pairwise_map.mp apart)
  exact before.resolve_right fun same => differ same.1

end Registry.Complete

/-- A discovered schema holds what its fields lead to. -/
theorem discoverSchema_complete (settings : CompilerSettings) (model : Model)
    (roots : List String) :
    (discoverSchema settings model roots).1.Complete (settings.classifier model) where
  kinds role name fields held := by
    obtain ⟨discovery, faithful, same, -⟩ := discoverSchema_registry settings model roots
    rw [same] at held
    rcases List.mem_append.mp held with entity | embeddable
    · obtain ⟨entry, listed, equal⟩ := List.mem_map.mp entity
      cases equal
      have kind := (Classifier.find?_of_entriesOf faithful.entities).mp
        (Table.find?_eq_some_iff.mpr listed)
      exact Kind.role?_eq_entity_iff.mpr kind.2.1
    · obtain ⟨entry, listed, equal⟩ := List.mem_map.mp embeddable
      cases equal
      have kind := (Classifier.find?_of_entriesOf faithful.embeddables).mp
        (Table.find?_eq_some_iff.mpr listed)
      exact Kind.role?_eq_embeddable_iff.mpr kind.2.1
  closed type name field found schemaType := by
    obtain ⟨fields, looked, listed⟩ := Option.bind_eq_some_iff.mp found
    obtain ⟨reachable, rfl⟩ := (discoverSchema_lookup_eq_some_iff settings model roots).mp looked
    have leads := Classifier.leadsTo_of_mem_fieldsOf (Table.find?_eq_some_iff.mp listed) schemaType
    exact (discoverSchema_contains_iff settings model roots _).mpr (reachable.step leads)
  elements type name field collection found elements := by
    obtain ⟨fields, looked, listed⟩ := Option.bind_eq_some_iff.mp found
    obtain ⟨-, rfl⟩ := (discoverSchema_lookup_eq_some_iff settings model roots).mp looked
    obtain ⟨declared, -, same⟩ := List.mem_map.mp (Table.find?_eq_some_iff.mp listed)
    cases same
    exact Classifier.kind_of_describe_collection elements

/-- The edges of a discovered schema mirror the kinds of what its fields lead to. There is one node
for each registered type, in the role of its half. A field of a registered type has exactly one edge
if its related type is a schema type, and none otherwise; the edge is that of a collection, or else
of a reference or of an embedded value by the kind of the related type, and the elements of a
collection are of the kind of a schema type just when there is an edge. There are no other edges, so
there are as many as fields that lead to schema types; and the neighbours of a type are these fields
with what they lead to, in the order of their names. -/
theorem discoverSchema_edges_mirror_kinds (settings : CompilerSettings) (model : Model)
    (roots : List String) :
    let classifier := settings.classifier model
    let registry := (discoverSchema settings model roots).1
    let graph := SchemaGraph.ofRegistry registry
    (graph.nodes = registry.types.map (fun type => (type.2.1, type.1)) ∧ graph.names.Nodup) ∧
      (∀ type fields, registry.lookup type = some fields →
        (∀ name field, fields.find? name = some field →
          (graph.edges.filter fun edge => edge.source = type ∧ edge.label.field = name) =
              (classifier.edgeOf? type name field).toList ∧
            ∀ collection, field.collection = some collection →
              (collection.kind.isSchemaType = true ↔
                ∃ edge ∈ graph.edges, edge.source = type ∧ edge.label.field = name)) ∧
        (graph.neighbors type).Perm (classifier.fieldTargets fields) ∧
          (graph.neighbors type).Pairwise fun left right => left.1 < right.1) ∧
      (∀ edge ∈ graph.edges, ∃ field,
        registry.field? edge.source edge.label.field = some field) ∧
      graph.edges.length =
        (registry.types.flatMap fun type => classifier.leadingFields type.2.2).length := by
  intro classifier registry graph
  have complete : registry.Complete classifier := discoverSchema_complete settings model roots
  refine ⟨⟨?_, SchemaGraph.nodup_names_ofRegistry complete.apart⟩, ?_, ?_, ?_⟩
  · refine List.map_congr_left ?_
    rintro ⟨role, name, fields⟩ held
    exact congrArg (Prod.mk name) (complete.drawnRole_eq held)
  · intro type fields found
    refine ⟨fun name field looked => ?_, complete.neighbors_perm found,
      complete.neighbors_ascend found⟩
    have edges := complete.filter_edges_field found looked
    refine ⟨edges, fun collection elements => ?_⟩
    have kind := complete.elements type name field collection
      (Option.bind_eq_some_iff.mpr ⟨fields, found, looked⟩) elements
    have drawn : (classifier.edgeOf? type name field).isSome = _ := Classifier.isSome_edgeOf?
    rw [kind, ← drawn, ← Option.ne_none_iff_isSome, ne_eq, ← Option.toList_eq_nil_iff, ← edges,
      List.filter_eq_nil_iff]
    simp [graph]
  · intro edge drawn
    obtain ⟨role, fields, field, held, listed⟩ := SchemaGraph.exists_field_of_mem_edges drawn
    exact ⟨field, Option.bind_eq_some_iff.mpr ⟨fields, complete.apart.mem_types_iff.mp ⟨role, held⟩,
      Table.find?_eq_some_iff.mpr listed⟩⟩
  · change (SchemaGraph.ofRegistry registry).edges.length = _
    rw [complete.edges_eq, List.length_flatMap, List.length_flatMap]
    simp only [Classifier.length_edgesOf]

/-- The customer of an order has one edge, that of a reference. The orders of a customer are a
collection of entities, so they have an edge as well. -/
theorem customerOrders_field_edges :
    let classifier := CompilerSettings.standard.classifier customerOrders
    let registry := (discoverSchema .standard customerOrders ["Order"]).1
    let graph := SchemaGraph.ofRegistry registry
    let customer := classifier.describe (Compilation.plainField "customer" (.named "Customer"))
    let orders := classifier.describe
      (Compilation.plainField "orders" (.generic "List" [.named "Order"]))
    registry.lookup "Order" = some (classifier.fieldsOf "Order") ∧
      (classifier.fieldsOf "Order").find? "customer" = some customer ∧
      registry.lookup "Customer" = some (classifier.fieldsOf "Customer") ∧
      (classifier.fieldsOf "Customer").find? "orders" = some orders ∧
      orders.collection = some ⟨.entityLike, .list, none, none⟩ ∧
      (graph.edges.filter fun edge => edge.source = "Order" ∧ edge.label.field = "customer") =
        [⟨"Order", ⟨"customer", .reference⟩, "Customer"⟩] ∧
      ∃ edge ∈ graph.edges, edge.source = "Customer" ∧ edge.label.field = "orders" := by
  have orderAncestry : customerOrders.ancestry "Order" = [customerOrder] :=
    Model.ancestry_of_parentless rfl rfl
  have customerAncestry : customerOrders.ancestry "Customer" = [customer] :=
    Model.ancestry_of_parentless rfl rfl
  have toCustomer : Compilation.plainField "customer" (.named "Customer") ∈
      customerOrders.persistentFields "Order" := by
    rw [Model.persistentFields, Model.mem_effectiveFields_iff, Model.IsClosest, orderAncestry]
    decide
  have toOrders : Compilation.plainField "orders" (.generic "List" [.named "Order"]) ∈
      customerOrders.persistentFields "Customer" := by
    rw [Model.persistentFields, Model.mem_effectiveFields_iff, Model.IsClosest, customerAncestry]
    decide
  intro classifier registry graph customer orders
  have order : classifier.Reachable ["Order"] "Order" :=
    Classifier.reachable_root List.mem_cons_self (.inl (by decide))
  have customers : classifier.Reachable ["Order"] "Customer" :=
    order.step ⟨.inl (by decide), _, toCustomer, by decide⟩
  have orderFound : registry.lookup "Order" = some (classifier.fieldsOf "Order") :=
    (discoverSchema_lookup_eq_some_iff ..).mpr ⟨order, rfl⟩
  have customerFound : registry.lookup "Customer" = some (classifier.fieldsOf "Customer") :=
    (discoverSchema_lookup_eq_some_iff ..).mpr ⟨customers, rfl⟩
  have customerLooked : (classifier.fieldsOf "Order").find? "customer" = some customer :=
    Table.find?_eq_some_iff.mpr (List.mem_map_of_mem toCustomer)
  have ordersLooked : (classifier.fieldsOf "Customer").find? "orders" = some orders :=
    Table.find?_eq_some_iff.mpr (List.mem_map_of_mem toOrders)
  have elements : orders.collection = some ⟨.entityLike, .list, none, none⟩ := by decide
  have drawn : classifier.edgeOf? "Order" "customer" customer =
      some ⟨"Order", ⟨"customer", .reference⟩, "Customer"⟩ := by decide
  obtain ⟨-, mirrored, -⟩ := discoverSchema_edges_mirror_kinds .standard customerOrders ["Order"]
  have reference := ((mirrored _ _ orderFound).1 _ _ customerLooked).1
  have collection := ((mirrored _ _ customerFound).1 _ _ ordersLooked).2 _ elements
  rw [drawn, Option.toList_some] at reference
  exact ⟨orderFound, customerLooked, customerFound, ordersLooked, elements, reference,
    collection.mp rfl⟩

end SchemaProjection
