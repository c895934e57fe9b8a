import SchemaProjection.Proofs.Reachability
import SchemaProjection.Schema.Graph

/-!
# Walks in the graph of a schema

A walk follows one or more edges. The search from a type takes up one waiting type after the
other; `reach_preserves` carries what each such step keeps over a whole search. Whatever a type
that has been met leads to has been met or waits (`SchemaGraph.Covers`), so the search ends with
exactly the ends of the walks from its start. The types of a component therefore all have the same
component, and a type belongs to a cycle exactly when a walk leads from it back to it.
-/
namespace SchemaProjection

namespace SchemaGraph

/-- An edge leads from a type to another one. -/
def Adjacent (graph : SchemaGraph) (source target : String) : Prop :=
  ∃ edge ∈ graph.edges, edge.source = source ∧ edge.target = target

/-- One or more edges lead from a type to another one, each from where the one before ends. -/
def Walk (graph : SchemaGraph) : String → String → Prop := Relation.TransGen graph.Adjacent

/-- Every edge ends at a type of the graph. -/
def EndsInside (graph : SchemaGraph) : Prop := ∀ edge ∈ graph.edges, edge.target ∈ graph.names

/-- A type has been met or waits. -/
def Noticed (met waiting : List String) (name : String) : Prop := name ∈ met ∨ name ∈ waiting

/-- Whatever a type that has been met leads to has been met or waits. -/
def Covers (graph : SchemaGraph) (met waiting : List String) : Prop :=
  ∀ name ∈ met, ∀ target, graph.Adjacent name target → Noticed met waiting target

variable {graph : SchemaGraph}

/-- The targets of a type are what its edges lead to. -/
theorem mem_targets_iff {source target : String} :
    target ∈ graph.targets source ↔ graph.Adjacent source target := by
  simp only [targets, Adjacent, List.mem_map, List.mem_filter, beq_iff_eq, and_assoc]

/-- Walks end inside the graph. -/
theorem EndsInside.mem_names (inside : graph.EndsInside) {source target : String}
    (walk : graph.Walk source target) : target ∈ graph.names := by
  obtain ⟨_, -, edge, held, -, rfl⟩ := Relation.TransGen.tail'_iff.mp walk
  exact inside edge held

/-- What every step of a search keeps, the whole search keeps. -/
theorem reach_preserves (keeps : List String → List String → Prop)
    (passes : ∀ met name rest, (name ∈ graph.names → name ∈ met) → keeps met (name :: rest) →
      keeps met rest)
    (takes : ∀ met name rest, keeps met (name :: rest) →
      keeps (name :: met) (rest ++ graph.targets name))
    {met waiting : List String} (start : keeps met waiting) :
    keeps (graph.reach met waiting) [] := by
  induction met, waiting using reach.induct graph with
  | case1 met => rwa [reach]
  | case2 met name rest fresh ih =>
    rw [reach, if_pos fresh]
    exact ih (takes met name rest start)
  | case3 met name rest passed ih =>
    rw [reach, if_neg passed]
    have known : name ∈ graph.names → name ∈ met := fun node =>
      not_not.mp fun unmet => passed ⟨node, unmet⟩
    exact ih (passes met name rest known start)

/-- A type of the graph does not go unnoticed when a name is passed over. -/
theorem Noticed.pass {met rest : List String} {name other : String}
    (known : name ∈ graph.names → name ∈ met) (node : other ∈ graph.names)
    (noticed : Noticed met (name :: rest) other) : Noticed met rest other := by
  rcases noticed with before | waits
  · exact .inl before
  · rcases List.mem_cons.mp waits with rfl | later
    · exact .inl (known node)
    · exact .inr later

/-- No name goes unnoticed when a name is met. -/
theorem Noticed.meet {met rest further : List String} {name other : String}
    (noticed : Noticed met (name :: rest) other) :
    Noticed (name :: met) (rest ++ further) other := by
  rcases noticed with before | waits
  · exact .inl (List.mem_cons_of_mem _ before)
  · rcases List.mem_cons.mp waits with rfl | later
    · exact .inl List.mem_cons_self
    · exact .inr (List.mem_append_left _ later)

/-- The search finds every type of the graph that has been met or waits at its beginning. -/
theorem mem_reach_of_noticed {met waiting : List String} {name : String}
    (node : name ∈ graph.names) (noticed : Noticed met waiting name) :
    name ∈ graph.reach met waiting := by
  have kept : Noticed (graph.reach met waiting) [] name :=
    reach_preserves (fun met waiting => Noticed met waiting name)
      (fun _ _ _ known noticed => noticed.pass known node) (fun _ _ _ noticed => noticed.meet)
      noticed
  simpa [Noticed] using kept

/-- The search finds nothing outside a property that all noticed types have and that edges hand
on. -/
theorem reach_finds_only (holds : String → Prop)
    (handsOn : ∀ name target, holds name → graph.Adjacent name target → holds target)
    {met waiting : List String} (start : ∀ name, Noticed met waiting name → holds name) :
    ∀ name ∈ graph.reach met waiting, holds name := by
  have kept : ∀ name, Noticed (graph.reach met waiting) [] name → holds name := by
    refine reach_preserves (fun met waiting => ∀ name, Noticed met waiting name → holds name)
      ?_ ?_ start
    · intro met name rest _ kept other noticed
      exact kept other (noticed.imp_right (List.mem_cons_of_mem _))
    · intro met name rest kept other noticed
      have first : holds name := kept name (.inr List.mem_cons_self)
      rcases noticed with before | waits
      · rcases List.mem_cons.mp before with rfl | before
        · exact first
        · exact kept other (.inl before)
      · rcases List.mem_append.mp waits with later | target
        · exact kept other (.inr (List.mem_cons_of_mem _ later))
        · exact handsOn name other first (mem_targets_iff.mp target)
  exact fun name found => kept name (.inl found)

/-- From a covered beginning, what is found leads only to what is found. -/
theorem Covers.reach (inside : graph.EndsInside) {met waiting : List String}
    (covers : graph.Covers met waiting) : graph.Covers (graph.reach met waiting) [] := by
  refine reach_preserves graph.Covers ?_ ?_ covers
  · intro met name rest known covers first held target edge
    have node : target ∈ graph.names := inside.mem_names (.single edge)
    exact (covers first held target edge).pass known node
  · intro met name rest covers first held target edge
    rcases List.mem_cons.mp held with rfl | before
    · exact .inr (List.mem_append_right _ (mem_targets_iff.mpr edge))
    · exact (covers first before target edge).meet

/-- The types that can be reached from a type are the ends of the walks from it. -/
theorem mem_reachable_iff (inside : graph.EndsInside) {source target : String} :
    target ∈ graph.reachable source ↔ graph.Walk source target := by
  rw [reachable]
  constructor
  · refine reach_finds_only (graph.Walk source) (fun _ _ walk edge => walk.tail edge) ?_ target
    rintro name (met | waits)
    · cases met
    · exact .single (mem_targets_iff.mp waits)
  · intro walk
    have covers : graph.Covers [] (graph.targets source) := nofun
    induction walk with
    | single edge =>
      exact mem_reach_of_noticed (inside.mem_names (.single edge))
        (.inr (mem_targets_iff.mpr edge))
    | tail _ edge found => simpa [Noticed] using covers.reach inside _ found _ edge

/-- No element comes twice when repetitions are left out. -/
theorem eraseDups_nodup {α : Type} [BEq α] [LawfulBEq α] : ∀ list : List α, list.eraseDups.Nodup
  | [] => List.nodup_nil
  | first :: rest => by
    rw [List.eraseDups_cons, List.nodup_cons, List.mem_eraseDups]
    exact ⟨by simp, eraseDups_nodup (rest.filter fun other => !other == first)⟩
termination_by list => list.length
decreasing_by exact Nat.lt_succ_of_le (List.length_filter_le _ _)

/-- Distinct names are more than one exactly when there is another one than a given one. -/
theorem one_lt_length_iff {names : List String} (distinct : names.Nodup) {name : String}
    (listed : name ∈ names) : 1 < names.length ↔ ∃ other ∈ names, other ≠ name :=
  calc 1 < names.length
    _ ↔ 0 < (names.erase name).length := by
      rw [List.length_erase_of_mem listed]
      omega
    _ ↔ ∃ other, other ∈ names.erase name := List.length_pos_iff_exists_mem
    _ ↔ ∃ other ∈ names, other ≠ name := by simp only [distinct.mem_erase_iff, and_comm]

/-- The component of a type holds the type, and the types to which walks lead from it and from which
walks lead back. -/
theorem mem_component_iff (inside : graph.EndsInside) {name other : String} :
    other ∈ graph.component name ↔
      other ∈ graph.names ∧ (other = name ∨ graph.Walk name other ∧ graph.Walk other name) := by
  simp only [component, List.mem_filter, List.mem_eraseDups, Bool.or_eq_true, beq_iff_eq,
    Bool.and_eq_true, List.contains_iff_mem, mem_reachable_iff inside]

/-- A type stands in its component. -/
theorem mem_component_self (inside : graph.EndsInside) {name : String}
    (node : name ∈ graph.names) : name ∈ graph.component name :=
  (mem_component_iff inside).mpr ⟨node, .inl rfl⟩

/-- No type stands twice in a component. -/
theorem component_nodup (graph : SchemaGraph) (name : String) : (graph.component name).Nodup :=
  (eraseDups_nodup _).filter _

/-- The types of a component have the same component. -/
theorem component_eq_of_mem (inside : graph.EndsInside) {name other : String}
    (member : other ∈ graph.component name) : graph.component other = graph.component name := by
  obtain ⟨-, rfl | ⟨there, back⟩⟩ := (mem_component_iff inside).mp member
  · rfl
  refine List.filter_congr fun third listed => ?_
  rw [Bool.eq_iff_iff]
  simp only [Bool.or_eq_true, beq_iff_eq, Bool.and_eq_true, List.contains_iff_mem,
    mem_reachable_iff inside]
  constructor
  · rintro (rfl | ⟨further, closer⟩)
    · exact .inr ⟨there, back⟩
    · exact .inr ⟨there.trans further, closer.trans back⟩
  · rintro (rfl | ⟨further, closer⟩)
    · exact .inr ⟨back, there⟩
    · exact .inr ⟨back.trans further, closer.trans there⟩

/-- An edge is contained when it leads from the one type to the other. -/
theorem containsEdge_iff {source target : String} :
    graph.containsEdge source target = true ↔ graph.Adjacent source target := by
  rw [containsEdge, List.contains_iff_mem, mem_targets_iff]

/-- The component of a type is cyclic exactly when a walk leads from the type back to it. -/
theorem isCyclic_component_iff (inside : graph.EndsInside) {name : String}
    (node : name ∈ graph.names) :
    graph.isCyclic (graph.component name) = true ↔ graph.Walk name name := by
  have member := mem_component_self inside node
  simp only [isCyclic, Bool.or_eq_true, decide_eq_true_eq, List.any_eq_true, containsEdge_iff,
    one_lt_length_iff (graph.component_nodup name) member]
  constructor
  · rintro (⟨other, held, differs⟩ | ⟨other, held, edge⟩)
    · obtain ⟨-, same | ⟨there, back⟩⟩ := (mem_component_iff inside).mp held
      · exact absurd same differs
      · exact there.trans back
    · obtain ⟨-, rfl | ⟨there, back⟩⟩ := (mem_component_iff inside).mp held
      · exact .single edge
      · exact there.trans back
  · intro walk
    obtain ⟨next, edge, back⟩ := Relation.TransGen.head'_iff.mp walk
    rcases Relation.reflTransGen_iff_eq_or_transGen.mp back with rfl | back
    · exact .inr ⟨_, member, edge⟩
    · by_cases same : next = name
      · exact .inr ⟨name, member, same ▸ edge⟩
      · have node : next ∈ graph.names := inside.mem_names (.single edge)
        have held : next ∈ graph.component name :=
          (mem_component_iff inside).mpr ⟨node, .inr ⟨.single edge, back⟩⟩
        exact .inl ⟨next, held, same⟩

/-- The names of a list in order are those of the list. -/
theorem mem_sortedNames_iff {names : List String} {name : String} :
    name ∈ sortedNames names ↔ name ∈ names := by
  rw [sortedNames, List.mem_mergeSort]

/-- The groups are the cyclic components with their names in order. -/
theorem mem_cycles_iff {group : List String} :
    group ∈ graph.cycles ↔ ∃ name ∈ graph.names,
      graph.isCyclic (graph.component name) = true ∧
        sortedNames (graph.component name) = group := by
  simp only [cycles, components, List.mem_mergeSort, List.mem_map, List.mem_filter,
    List.mem_eraseDups]
  constructor
  · rintro ⟨_, ⟨⟨name, node, rfl⟩, cyclic⟩, same⟩
    exact ⟨name, node, cyclic, same⟩
  · rintro ⟨name, node, cyclic, same⟩
    exact ⟨_, ⟨⟨name, node, rfl⟩, cyclic⟩, same⟩

/-- A group lists the component of each of its types. -/
theorem eq_sortedNames_of_mem (inside : graph.EndsInside) {group : List String}
    (held : group ∈ graph.cycles) {name : String} (member : name ∈ group) :
    group = sortedNames (graph.component name) := by
  obtain ⟨first, -, -, rfl⟩ := mem_cycles_iff.mp held
  rw [component_eq_of_mem inside (mem_sortedNames_iff.mp member)]

/-- A type belongs to a cycle exactly when a walk leads from it back to it. -/
theorem exists_mem_cycles_iff (inside : graph.EndsInside) {name : String} :
    (∃ group ∈ graph.cycles, name ∈ group) ↔ graph.Walk name name := by
  constructor
  · rintro ⟨group, held, member⟩
    obtain ⟨first, -, cyclic, rfl⟩ := mem_cycles_iff.mp held
    have inComponent := mem_sortedNames_iff.mp member
    have node : name ∈ graph.names := ((mem_component_iff inside).mp inComponent).1
    rwa [← component_eq_of_mem inside inComponent, isCyclic_component_iff inside node] at cyclic
  · intro walk
    have node : name ∈ graph.names := inside.mem_names walk
    exact ⟨_, mem_cycles_iff.mpr ⟨name, node, (isCyclic_component_iff inside node).mpr walk, rfl⟩,
      mem_sortedNames_iff.mpr (mem_component_self inside node)⟩

end SchemaGraph

namespace Registry

/-- No name stands in both halves. -/
def Apart (registry : Registry) : Prop :=
  ∀ name ∈ registry.entities.names, name ∉ registry.embeddables.names

variable {registry : Registry}

/-- Where each half holds names of its own kind, no name stands in both. -/
theorem Apart.of_kinds {classifier : Classifier}
    (entities : ∀ name fields, registry.entities.find? name = some fields →
      classifier.kindOf name = .entityLike)
    (embeddables : ∀ name fields, registry.embeddables.find? name = some fields →
      classifier.kindOf name = .embeddableLike) : registry.Apart := by
  intro name entity embeddable
  rw [← Table.isSome_find?_iff, Option.isSome_iff_exists] at entity embeddable
  obtain ⟨fields, entity⟩ := entity
  obtain ⟨others, embeddable⟩ := embeddable
  cases (entities name fields entity).symm.trans (embeddables name others embeddable)

/-- The types are the entities and the value objects. -/
theorem mem_types_iff {name : String} {fields : Table Field} :
    (∃ role, (role, name, fields) ∈ registry.types) ↔
      registry.entities.find? name = some fields ∨
        registry.embeddables.find? name = some fields := by
  simp [types, Table.find?_eq_some_iff, exists_or]

/-- Where no name stands in both halves, the types have the fields that a lookup finds. -/
theorem Apart.mem_types_iff (apart : registry.Apart) {name : String} {fields : Table Field} :
    (∃ role, (role, name, fields) ∈ registry.types) ↔ registry.lookup name = some fields := by
  rw [Registry.mem_types_iff, lookup, Option.or_eq_some_iff]
  refine or_congr_right (iff_and_self.mpr fun found => ?_)
  rw [← Option.not_isSome_iff_eq_none, Table.isSome_find?_iff]
  intro entity
  exact apart name entity (Table.isSome_find?_iff.mp (by rw [found]; rfl))

end Registry

namespace SchemaGraph

variable {registry : Registry}

/-- The types of the graph of a registry are the registered ones. -/
theorem mem_names_ofRegistry_iff {name : String} :
    name ∈ (ofRegistry registry).names ↔ registry.contains name = true := by
  rw [Registry.contains, Registry.lookup, Option.isSome_or, Bool.or_eq_true,
    Table.isSome_find?_iff, Table.isSome_find?_iff]
  simp [names, ofRegistry, Registry.types, Table.names]

/-- The edge of a field, if it has one, goes from the type of the field to the registered type that
the field leads to. -/
theorem edge?_eq_some {source name : String} {field : Field} {edge : Edge}
    (drawn : edge? registry source name field = some edge) :
    registry.contains field.relatedType = true ∧ edge.source = source ∧
      edge.target = field.relatedType := by
  rw [edge?, Option.ite_none_right_eq_some] at drawn
  obtain ⟨registered, same⟩ := drawn
  obtain rfl := Option.some.inj same
  exact ⟨registered, rfl, rfl⟩

/-- An edge of the graph of a registry is a field of a registered type that leads to a registered
type. -/
theorem adjacent_ofRegistry_iff {source target : String} :
    (ofRegistry registry).Adjacent source target ↔
      registry.contains target = true ∧
        ∃ fields name field, (∃ role, (role, source, fields) ∈ registry.types) ∧
          (name, field) ∈ fields.entries ∧ field.relatedType = target := by
  simp only [Adjacent, ofRegistry, List.mem_flatMap, List.mem_filterMap]
  constructor
  · rintro ⟨edge, ⟨⟨role, owner, fields⟩, registered, ⟨name, field⟩, listed, drawn⟩, rfl, rfl⟩
    obtain ⟨held, rfl, same⟩ := edge?_eq_some drawn
    exact ⟨same ▸ held, fields, name, field, ⟨role, registered⟩, listed, same.symm⟩
  · rintro ⟨held, fields, name, field, ⟨role, registered⟩, listed, rfl⟩
    exact ⟨_, ⟨_, registered, _, listed, if_pos held⟩, rfl, rfl⟩

/-- The edges of the graph of a registry end inside it. -/
theorem endsInside_ofRegistry (registry : Registry) : (ofRegistry registry).EndsInside := by
  intro edge held
  rw [mem_names_ofRegistry_iff]
  exact (adjacent_ofRegistry_iff.mp ⟨edge, held, rfl, rfl⟩).1

/-- Where no name stands in both halves, the edges of a type are those of its fields that lead to
registered types. -/
theorem adjacent_iff_of_apart (apart : registry.Apart) {source target : String} :
    (ofRegistry registry).Adjacent source target ↔
      registry.contains target = true ∧
        ∃ name field, registry.field? source name = some field ∧ field.relatedType = target := by
  rw [adjacent_ofRegistry_iff]
  refine and_congr_right fun _ => ?_
  simp only [apart.mem_types_iff, Registry.field?, Option.bind_eq_some_iff,
    Table.find?_eq_some_iff]
  constructor
  · rintro ⟨fields, name, field, found, listed, same⟩
    exact ⟨name, field, ⟨fields, found, listed⟩, same⟩
  · rintro ⟨name, field, ⟨fields, found, listed⟩, same⟩
    exact ⟨fields, name, field, found, listed, same⟩

end SchemaGraph

end SchemaProjection
