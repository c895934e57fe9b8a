import SchemaProjection.Schema.Registry

/-!
# The graph of a schema

The schema types are the nodes of a graph, and every field that leads to one of them is an edge.
Two types belong to the same component when each can be reached from the other. A component is a
cycle when it has more than one type, or a single one that leads to itself. A cycle is listed by the
names of its types in order, and the cycles in the order of these lists.
-/
namespace SchemaProjection

/-- `EdgeKind` — how a field leads to a schema type. -/
inductive EdgeKind where
  /-- One value object. -/
  | embedded
  /-- One entity. -/
  | reference
  /-- A collection. -/
  | collection
deriving Repr, DecidableEq

/-- The name of a kind of edges. -/
def EdgeKind.name : EdgeKind → String
  | .embedded => "embedded"
  | .reference => "reference"
  | .collection => "collection"

/-- The format of a kind of edges. -/
def EdgeKind.format : Format EdgeKind :=
  .choice ([.embedded, .reference, .collection].map fun kind => (kind.name, kind)) EdgeKind.name

/-- `SchemaEdge` — what an edge is labelled with. -/
structure EdgeLabel where
  /-- The field. -/
  field : String
  /-- How it leads to its target. -/
  kind : EdgeKind
deriving Repr, DecidableEq

/-- The format of labels. -/
def EdgeLabel.format : Format EdgeLabel :=
  .record "SchemaEdge"
    (.required "field" .string <| .required "kind" EdgeKind.format .none)
    (fun (field, kind, ()) => ⟨field, kind⟩)
    (fun label => (label.field, label.kind, ()))

/-- A field that leads from a schema type to another one. -/
structure Edge where
  /-- The type of the field. -/
  source : String
  /-- The field. -/
  label : EdgeLabel
  /-- The type it leads to. -/
  target : String
deriving Repr, DecidableEq

/-- `SchemaGraph` — the schema types and the fields that lead from one to another. -/
structure SchemaGraph where
  /-- The types with their roles. -/
  nodes : List (String × Role)
  /-- The edges in the order of the types and of their fields. -/
  edges : List Edge

namespace SchemaGraph

/-- The role in which a type is drawn; a name in both halves is a value object. -/
def drawnRole (registry : Registry) (name : String) : Role :=
  if registry.embeddables.contains name then .embeddable else .entity

/-- The edge of a field, if it leads to a schema type. -/
def edge? (registry : Registry) (source name : String) (field : Field) : Option Edge :=
  if registry.contains field.relatedType then
    let kind : EdgeKind :=
      if field.isCollection then .collection
      else match drawnRole registry field.relatedType with
        | .embeddable => .embedded
        | .entity => .reference
    some ⟨source, ⟨name, kind⟩, field.relatedType⟩
  else none

/-- `SchemaGraph::from_registry` — the graph of a registry. -/
def ofRegistry (registry : Registry) : SchemaGraph where
  nodes := registry.types.map fun (_, name, _) => (name, drawnRole registry name)
  edges := registry.types.flatMap fun (_, source, fields) =>
    fields.entries.filterMap fun (name, field) => edge? registry source name field

/-- The names of the types. -/
def names (graph : SchemaGraph) : List String := graph.nodes.map Prod.fst

/-- The types that the fields of a type lead to. -/
def targets (graph : SchemaGraph) (source : String) : List String :=
  (graph.edges.filter (·.source == source)).map Edge.target

/-- Names in order. -/
def sortedNames (names : List String) : List String :=
  names.mergeSort fun left right => left ≤ right

/-- `SchemaGraph::neighbors` — the fields of a type that lead to schema types, with these types, in
order. -/
def neighbors (graph : SchemaGraph) (source : String) : List (String × String) :=
  let fields := (graph.edges.filter (·.source == source)).map fun edge =>
    (edge.label.field, edge.target)
  fields.mergeSort fun left right =>
    left.1 < right.1 || (left.1 == right.1 && left.2 ≤ right.2)

/-- One more name leaves fewer other names, if it is one of them. -/
theorem unmet_length_lt {names met : List String} {name : String} (node : name ∈ names)
    (fresh : name ∉ met) :
    (names.filter (· ∉ name :: met)).length < (names.filter (· ∉ met)).length := by
  have split : names.filter (· ∉ name :: met) = (names.filter (· ∉ met)).filter (· != name) := by
    rw [List.filter_filter]
    congr 1
    funext other
    by_cases same : other = name <;> simp [same]
  rw [split]
  exact List.length_filter_lt_length_iff_exists.mpr ⟨name, by simp [node, fresh], by simp⟩

/-- The types met and those that can be reached from waiting ones. -/
def reach (graph : SchemaGraph) (met waiting : List String) : List String :=
  match waiting with
  | [] => met
  | name :: rest =>
    if name ∈ graph.names ∧ name ∉ met then
      graph.reach (name :: met) (rest ++ graph.targets name)
    else graph.reach met rest
termination_by ((graph.names.filter (· ∉ met)).length, waiting.length)
decreasing_by
  · rename_i step
    exact Prod.Lex.left _ _ (unmet_length_lt step.1 step.2)
  · exact Prod.Lex.right _ (Nat.lt_succ_self _)

/-- The types that can be reached from a type over at least one edge. -/
def reachable (graph : SchemaGraph) (name : String) : List String :=
  graph.reach [] (graph.targets name)

/-- Whether an edge leads from a type to another one. -/
def containsEdge (graph : SchemaGraph) (source target : String) : Bool :=
  (graph.targets source).contains target

/-- The strongly connected component of a type: the type itself, and those that can be reached from
it and from which it can be reached. -/
def component (graph : SchemaGraph) (name : String) : List String :=
  let there := graph.reachable name
  graph.names.eraseDups.filter fun other =>
    other == name || there.contains other && (graph.reachable other).contains name

/-- `kosaraju_scc` — the strongly connected components, each once. -/
def components (graph : SchemaGraph) : List (List String) :=
  (graph.names.eraseDups.map graph.component).eraseDups

/-- Whether a component has more than one type, or a type that an edge leads from to itself. -/
def isCyclic (graph : SchemaGraph) (component : List String) : Bool :=
  component.length > 1 || component.any fun name => graph.containsEdge name name

/-- `SchemaGraph::cycles` — the components that are cyclic, the names of each in order, in the order
of these lists of names. -/
def cycles (graph : SchemaGraph) : List (List String) :=
  let groups := (graph.components.filter graph.isCyclic).map sortedNames
  groups.mergeSort fun left right => !(right < left)

end SchemaGraph

end SchemaProjection
