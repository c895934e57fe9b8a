import SchemaProjection.Schema.Graph

/-!
# Drawn graphs

A graph as a DOT text: a statement for each type, coloured by its role, and then one for each
edge, in the style of its kind. The identifier of a node is the name of the type in which the
characters that identifiers may not hold are replaced.
-/
namespace SchemaProjection.SchemaGraph

/-- `dot_id` — the identifier of a type. -/
def dotId (name : String) : String :=
  name.map fun c => if c == '.' || c == '-' || c == ':' || c == '$' then '_' else c

/-- The colour of a role. -/
def color : Role → String
  | .entity => "#00BCD4"
  | .embeddable => "#FF9800"

/-- The line style of a kind of edges. -/
def style : EdgeKind → String
  | .embedded => "dashed"
  | .reference => "solid"
  | .collection => "bold"

/-- The lines before the first statement. -/
def header : String :=
  "digraph SchemaGraph \x7b\n" ++
  "  rankdir=LR;\n" ++
  "  bgcolor=\"#1e1e1e\";\n" ++
  "  node [shape=box, style=\"filled,rounded\", fontname=\"Helvetica\", fontsize=10, " ++
    "fontcolor=\"white\", color=\"#404040\"];\n" ++
  "  edge [fontname=\"Helvetica\", fontsize=8, fontcolor=\"#808080\"];\n"

/-- The statement of a type. -/
def nodeLine (node : String × Role) : String :=
  "  \"" ++ dotId node.1 ++ "\" [label=\"" ++ node.1 ++ "\", fillcolor=\"" ++ color node.2 ++
    "\"];\n"

/-- The statement of an edge. -/
def edgeLine (edge : Edge) : String :=
  "  \"" ++ dotId edge.source ++ "\" -> \"" ++ dotId edge.target ++ "\" [label=\"" ++
    edge.label.field ++ "\", style=" ++ style edge.label.kind ++ "];\n"

/-- `SchemaGraph::to_dot` — a graph as a DOT text. -/
def dot (graph : SchemaGraph) : String :=
  header ++ "\n" ++ String.join (graph.nodes.map nodeLine) ++ "\n" ++
    String.join (graph.edges.map edgeLine) ++ "\x7d\n"

end SchemaProjection.SchemaGraph
