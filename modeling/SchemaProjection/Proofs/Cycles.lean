import Mathlib.Data.List.Pairwise
import Mathlib.Data.List.Sort
import Mathlib.Data.String.Basic
import SchemaProjection.Proofs.Simulation
import SchemaProjection.Proofs.Walks

/-!
# The listing of cycles

`ListsCycles` says of a list of groups that it lists the cycles of a relation: which types stand
in some group, which two stand in one group, and in what order types and groups come. There is one
such list at most (`ListsCycles.unique`), so a function that gives it depends on the relation
only. The cycles of a graph are the listing of its walks, and the walks in the graph of a registry
are those over the fields of registered types; so the order in which a registry holds its types and
fields does not show in the cycles.
-/
namespace SchemaProjection

/-- The groups of a list are the cycles of a relation. -/
structure ListsCycles (walk : String → String → Prop) (groups : List (List String)) : Prop where
  /-- Some type stands in each group. -/
  inhabited : ∀ group ∈ groups, group ≠ []
  /-- No type stands in two groups. -/
  disjoint : groups.Pairwise List.Disjoint
  /-- A type stands in a group exactly when a walk leads from it back to it. -/
  mem_iff : ∀ name, (∃ group ∈ groups, name ∈ group) ↔ walk name name
  /-- Two types stand in one group exactly when a walk leads from each to the other. -/
  together_iff : ∀ first second, first ≠ second →
    ((∃ group ∈ groups, first ∈ group ∧ second ∈ group) ↔ walk first second ∧ walk second first)
  /-- The names of a group ascend, so that none stands there twice. -/
  ascends : ∀ group ∈ groups, group.Pairwise (· < ·)
  /-- The groups ascend by the first name that differs. -/
  listed : groups.Pairwise (· < ·)

namespace ListsCycles

variable {walk : String → String → Prop} {left right : List (List String)}

/-- The group of a type holds the types to which walks lead from it and from which walks lead
back. -/
theorem mem_group_iff (lists : ListsCycles walk left) {group : List String} (held : group ∈ left)
    {name : String} (member : name ∈ group) {other : String} :
    other ∈ group ↔ walk name other ∧ walk other name := by
  by_cases same : name = other
  · subst same
    exact iff_of_true member (and_self_iff.mpr ((lists.mem_iff name).mp ⟨group, held, member⟩))
  · rw [← lists.together_iff name other same]
    refine ⟨fun further => ⟨group, held, member, further⟩, ?_⟩
    rintro ⟨found, listed, here, further⟩
    by_contra absent
    have differ : group ≠ found := fun equal => absent (equal ▸ further)
    have symm : Std.Symm (List.Disjoint : List String → List String → Prop) :=
      ⟨fun _ _ apart _ here there => apart there here⟩
    exact lists.disjoint.forall held listed differ member here

/-- A group of one listing of the cycles is one of every other. -/
theorem mem_of_mem (leftLists : ListsCycles walk left) (rightLists : ListsCycles walk right)
    {group : List String} (held : group ∈ left) : group ∈ right := by
  obtain ⟨name, member⟩ := List.exists_mem_of_ne_nil group (leftLists.inhabited group held)
  have circular : walk name name := (leftLists.mem_iff name).mp ⟨group, held, member⟩
  obtain ⟨found, listed, here⟩ := (rightLists.mem_iff name).mpr circular
  have same : group = found :=
    (leftLists.ascends group held).eq_of_mem_iff (rightLists.ascends found listed) fun other => by
      rw [leftLists.mem_group_iff held member, rightLists.mem_group_iff listed here]
  exact same ▸ listed

/-- The cycles of a relation are listed in one way. -/
theorem unique (leftLists : ListsCycles walk left) (rightLists : ListsCycles walk right) :
    left = right :=
  leftLists.listed.eq_of_mem_iff rightLists.listed fun _ =>
    ⟨leftLists.mem_of_mem rightLists, rightLists.mem_of_mem leftLists⟩

end ListsCycles

namespace SchemaGraph

variable {graph : SchemaGraph}

/-- Sorting distinct names puts them into ascending order. -/
theorem sortedNames_ascends {names : List String} (distinct : names.Nodup) :
    (sortedNames names).Pairwise (· < ·) := by
  have ranked : (sortedNames names).Pairwise (· ≤ ·) := List.pairwise_mergeSort' (· ≤ ·) names
  have apart : (sortedNames names).Nodup := (List.mergeSort_perm names _).nodup_iff.mpr distinct
  exact ranked.imp₂ (fun _ _ before differ => lt_of_le_of_ne before differ) apart

/-- Components with the same names in order are one. -/
theorem component_eq_of_sortedNames_eq (inside : graph.EndsInside) {name other : String}
    (node : name ∈ graph.names)
    (same : sortedNames (graph.component name) = sortedNames (graph.component other)) :
    graph.component name = graph.component other := by
  have member : name ∈ sortedNames (graph.component other) :=
    same ▸ mem_sortedNames_iff.mpr (mem_component_self inside node)
  exact component_eq_of_mem inside (mem_sortedNames_iff.mp member)

/-- No group is listed twice. -/
theorem cycles_nodup (inside : graph.EndsInside) : graph.cycles.Nodup := by
  have once : (graph.components.filter graph.isCyclic).Nodup := (eraseDups_nodup _).filter _
  have apart : ((graph.components.filter graph.isCyclic).map sortedNames).Nodup := by
    refine once.map_on fun first held second listed same => ?_
    simp only [components, List.mem_filter, List.mem_eraseDups, List.mem_map] at held listed
    obtain ⟨⟨name, node, rfl⟩, -⟩ := held
    obtain ⟨⟨other, -, rfl⟩, -⟩ := listed
    exact component_eq_of_sortedNames_eq inside node same
  exact (List.mergeSort_perm _ _).nodup_iff.mpr apart

/-- The groups ascend by the first name that differs. -/
theorem cycles_ascend (inside : graph.EndsInside) : graph.cycles.Pairwise (· < ·) := by
  have ranked : graph.cycles.Pairwise fun left right => ¬right < left := by
    refine (List.pairwise_mergeSort (fun first second third below above => ?_)
      (fun first second => ?_) _).imp fun before => by simpa using before
    · simp only [Bool.not_eq_true', decide_eq_false_iff_not] at below above ⊢
      exact fun behind => below (lt_of_le_of_lt (not_lt.mp above) behind)
    · simp only [Bool.or_eq_true, Bool.not_eq_true', decide_eq_false_iff_not]
      exact (em _).symm.imp_right fun behind => lt_asymm behind
  exact ranked.imp₂ (fun _ _ before differ => lt_of_le_of_ne (not_lt.mp before) differ)
    (cycles_nodup inside)

/-- The cycles of a graph are those of its walks. -/
theorem listsCycles (inside : graph.EndsInside) : ListsCycles graph.Walk graph.cycles where
  inhabited group held := by
    obtain ⟨name, node, -, rfl⟩ := mem_cycles_iff.mp held
    exact List.ne_nil_of_mem (mem_sortedNames_iff.mpr (mem_component_self inside node))
  disjoint := (cycles_ascend inside).imp_of_mem fun leftHeld rightHeld before name left right => by
    have same := (eq_sortedNames_of_mem inside leftHeld left).trans
      (eq_sortedNames_of_mem inside rightHeld right).symm
    exact lt_irrefl _ (same ▸ before)
  mem_iff _ := exists_mem_cycles_iff inside
  together_iff first second differ := by
    constructor
    · rintro ⟨group, held, member, further⟩
      rw [eq_sortedNames_of_mem inside held member, mem_sortedNames_iff,
        mem_component_iff inside] at further
      exact further.2.resolve_left (Ne.symm differ)
    · rintro ⟨there, back⟩
      obtain ⟨group, held, member⟩ := (exists_mem_cycles_iff inside).mpr (there.trans back)
      refine ⟨group, held, member, ?_⟩
      rw [eq_sortedNames_of_mem inside held member, mem_sortedNames_iff, mem_component_iff inside]
      exact ⟨inside.mem_names there, .inr ⟨there, back⟩⟩
  ascends group held := by
    obtain ⟨name, -, -, rfl⟩ := mem_cycles_iff.mp held
    exact sortedNames_ascends (graph.component_nodup name)
  listed := cycles_ascend inside

end SchemaGraph

namespace Table

variable {α : Type} {alike : α → α → Prop} {left right : Table α}

/-- Two tables hold the same names, each with values that are alike, in one order or another. -/
def Reordered (alike : α → α → Prop) (left right : Table α) : Prop :=
  ∃ middle : Table α, left.entries.Perm middle.entries ∧ middle.Related alike right

/-- A lookup does not depend on the order of a table. -/
theorem find?_of_perm (permuted : left.entries.Perm right.entries) (name : String) :
    left.find? name = right.find? name := by
  ext value
  rw [find?_eq_some_iff, find?_eq_some_iff, permuted.mem_iff]

/-- Under every name reordered tables hold values that are alike, or none. -/
theorem Reordered.find? (reordered : left.Reordered alike right) (name : String) :
    Option.Rel alike (left.find? name) (right.find? name) := by
  obtain ⟨middle, permuted, related⟩ := reordered
  rw [find?_of_perm permuted]
  exact related.find? name

/-- Tables that differ in their order only give the same values. -/
theorem Reordered.find?_eq (reordered : left.Reordered Eq right) (name : String) :
    left.find? name = right.find? name := by
  obtain ⟨middle, permuted, related⟩ := reordered
  obtain rfl := related.eq
  exact find?_of_perm permuted name

/-- Reordered tables hold the same names. -/
theorem Reordered.mem_names_iff (reordered : left.Reordered alike right) {name : String} :
    name ∈ left.names ↔ name ∈ right.names := by
  obtain ⟨middle, permuted, related⟩ := reordered
  rw [← related.names_eq]
  exact (permuted.map Prod.fst).mem_iff

end Table

namespace Registry

/-- Two registries hold the same types in the same halves, and each type the same fields, in one
order or another. -/
structure Reordered (left right : Registry) : Prop where
  /-- The entities are the same. -/
  entities : left.entities.Reordered (Table.Reordered Eq) right.entities
  /-- The value objects are the same. -/
  embeddables : left.embeddables.Reordered (Table.Reordered Eq) right.embeddables

/-- A field of a type is related to a registered type. -/
def LeadsTo (registry : Registry) (source target : String) : Prop :=
  registry.contains target = true ∧
    ∃ name field, registry.field? source name = some field ∧ field.relatedType = target

/-- One or more fields lead from a type to another one, each from the type that the field before
is related to. -/
def Walk (registry : Registry) : String → String → Prop := Relation.TransGen registry.LeadsTo

variable {left right : Registry}

/-- Under every name reordered registries hold the same fields in one order or another, or none. -/
theorem Reordered.lookup (reordered : left.Reordered right) (name : String) :
    Option.Rel (Table.Reordered Eq) (left.lookup name) (right.lookup name) :=
  lookup_rel (reordered.entities.find? name) (reordered.embeddables.find? name)

/-- Reordered registries contain the same types. -/
theorem Reordered.contains_eq (reordered : left.Reordered right) (name : String) :
    left.contains name = right.contains name :=
  isSome_eq_of_rel (reordered.lookup name)

/-- In reordered registries the types have the same fields. -/
theorem Reordered.field?_eq (reordered : left.Reordered right) (type name : String) :
    left.field? type name = right.field? type name := by
  have found := reordered.lookup type
  rw [field?, field?]
  generalize left.lookup type = fields, right.lookup type = others at found
  cases found with
  | none => rfl
  | some fields => exact fields.find?_eq name

/-- In reordered registries the same types lead to the same types. -/
theorem Reordered.leadsTo_eq (reordered : left.Reordered right) :
    left.LeadsTo = right.LeadsTo := by
  funext source target
  simp only [LeadsTo, reordered.contains_eq, reordered.field?_eq]

/-- No name stands in both halves when the types are reordered. -/
theorem Reordered.apart (reordered : left.Reordered right) (apart : left.Apart) : right.Apart := by
  intro name entity embeddable
  rw [← reordered.entities.mem_names_iff] at entity
  rw [← reordered.embeddables.mem_names_iff] at embeddable
  exact apart name entity embeddable

end Registry

namespace SchemaGraph

variable {registry : Registry}

/-- Where no name stands in both halves, the walks in the graph of a registry are those over the
fields of registered types. -/
theorem walk_ofRegistry_eq (apart : registry.Apart) :
    (ofRegistry registry).Walk = registry.Walk := by
  have edges : (ofRegistry registry).Adjacent = registry.LeadsTo := by
    funext source target
    exact propext (adjacent_iff_of_apart apart)
  rw [Walk, Registry.Walk, edges]

/-- The cycles of a registry in which no name stands in both halves are listed exactly. The groups
are not empty and have no type in common; a type stands in a group exactly when a walk over one or
more fields of registered types leads from it back to it, and two types stand in one group exactly
when walks lead from each to the other; the names in a group ascend, and so do the groups. The list
is the same in whatever order the registry holds the types and their fields. -/
theorem cycles_ofRegistry_listed {registry : Registry} (apart : registry.Apart) :
    ListsCycles registry.Walk (ofRegistry registry).cycles ∧
      ∀ other : Registry, registry.Reordered other →
        (ofRegistry other).cycles = (ofRegistry registry).cycles := by
  have lists : ∀ registry : Registry, registry.Apart →
      ListsCycles registry.Walk (ofRegistry registry).cycles := by
    intro registry apart
    rw [← walk_ofRegistry_eq apart]
    exact listsCycles (endsInside_ofRegistry registry)
  refine ⟨lists registry apart, fun other reordered => ?_⟩
  have same : registry.Walk = other.Walk := by
    rw [Registry.Walk, Registry.Walk, reordered.leadsTo_eq]
  exact (lists other (reordered.apart apart)).unique (same ▸ lists registry apart)

/-- The fields of orders: a customer and a part. -/
def orderFields : Table Field :=
  ⟨[("customer", .single (.named "Customer")), ("part", .single (.named "Part"))], by decide⟩

/-- The fields of orders, the part first. -/
def orderFieldsReordered : Table Field :=
  ⟨[("part", .single (.named "Part")), ("customer", .single (.named "Customer"))], by decide⟩

/-- The fields of customers: their orders. -/
def customerFields : Table Field :=
  ⟨[("orders", .many (.generic "List" [.named "Order"]) "Order" ⟨.entityLike, .list, none, none⟩)],
    by decide⟩

/-- The fields of parts: the part that a part belongs to. -/
def partFields : Table Field := ⟨[("whole", .single (.named "Part"))], by decide⟩

/-- Orders and customers refer to each other, and parts to parts. -/
def ordersFirst : Registry where
  entities := ⟨[("Order", orderFields), ("Customer", customerFields)], by decide⟩
  embeddables := ⟨[("Part", partFields)], by decide⟩

/-- The registry of `ordersFirst` with its types and the fields of an order inserted in another
order. -/
def customersFirst : Registry where
  entities := ⟨[("Customer", customerFields), ("Order", orderFieldsReordered)], by decide⟩
  embeddables := ⟨[("Part", partFields)], by decide⟩

/-- Whether orders or customers are registered first, they stand in one group of the cycles. -/
theorem cycles_ordersFirst_listed :
    ordersFirst.Apart ∧ ordersFirst.Reordered customersFirst ∧
      ListsCycles ordersFirst.Walk (ofRegistry ordersFirst).cycles ∧
      (ofRegistry customersFirst).cycles = (ofRegistry ordersFirst).cycles ∧
      ∃ group ∈ (ofRegistry ordersFirst).cycles, "Order" ∈ group ∧ "Customer" ∈ group := by
  have apart : ordersFirst.Apart := by
    unfold Registry.Apart
    decide
  have same : ∀ fields : Table Field, fields.Reordered Eq fields := fun fields =>
    ⟨fields, .refl _, List.forall₂_same.mpr fun _ _ => ⟨rfl, rfl⟩⟩
  have swapped : orderFields.Reordered Eq orderFieldsReordered :=
    ⟨orderFieldsReordered, .swap _ _ _, List.forall₂_same.mpr fun _ _ => ⟨rfl, rfl⟩⟩
  have reordered : ordersFirst.Reordered customersFirst :=
    { entities := ⟨⟨[("Customer", customerFields), ("Order", orderFields)], by decide⟩,
        .swap _ _ _, .cons ⟨rfl, same _⟩ (.cons ⟨rfl, swapped⟩ .nil)⟩
      embeddables := ⟨ordersFirst.embeddables, .refl _, .cons ⟨rfl, same _⟩ .nil⟩ }
  obtain ⟨lists, unmoved⟩ := cycles_ofRegistry_listed apart
  have toCustomer : ordersFirst.LeadsTo "Order" "Customer" :=
    ⟨by decide, "customer", _, rfl, by decide⟩
  have toOrder : ordersFirst.LeadsTo "Customer" "Order" := ⟨by decide, "orders", _, rfl, by decide⟩
  exact ⟨apart, reordered, lists, unmoved customersFirst reordered,
    (lists.together_iff "Order" "Customer" (by decide)).mpr ⟨.single toCustomer, .single toOrder⟩⟩

end SchemaGraph

end SchemaProjection
