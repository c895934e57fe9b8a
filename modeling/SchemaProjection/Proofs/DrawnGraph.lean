import SchemaProjection.Proofs.Replacement
import SchemaProjection.Proofs.WalkedPaths
import SchemaProjection.Schema.Graph.Dot

/-!
# Statements of drawn graphs

A DOT text has a statement on a line, whose names stand in quotes. Where no name holds a quote, a
backslash or a line break, the lines of a drawn graph are read back as the statements of its nodes
and edges, each with its role or label, and no others (`statements_dot`). A statement names a type
by its identifier, in which an underscore is written for some of the characters of the name. So the
statements tell the types of a schema apart exactly when no two of their names agree but for these
characters and underscores (`discoverSchema_drawnApart_iff`).
-/
namespace SchemaProjection

namespace Text

/-- Nothing in a text ends a quoted text or a line. -/
def Quotable (text : String) : Prop := ∀ c ∈ text.toList, c ≠ '"' ∧ c ≠ '\\' ∧ c ≠ '\n'

instance : DecidablePred Quotable := fun text =>
  List.decidableBAll (fun c => c ≠ '"' ∧ c ≠ '\\' ∧ c ≠ '\n') text.toList

end Text

namespace SchemaGraph

/-- An underscore is written for a character in identifiers. -/
def isReplaced (c : Char) : Bool := c == '.' || c == '-' || c == ':' || c == '$'

/-- An identifier is the name with underscores for some of its characters. -/
theorem toList_dotId (name : String) : (dotId name).toList = Text.replaced isReplaced name.toList :=
  String.toList_map

/-- Two types have one identifier exactly when their names agree but for the characters that are
underscores in the end. -/
theorem dotId_eq_iff {name other : String} :
    dotId name = dotId other ↔ Text.AgreeBut isReplaced name.toList other.toList := by
  rw [← Text.replaced_eq_iff, ← toList_dotId, ← toList_dotId, String.toList_inj]

/-- An identifier may stand in quotes if the name may. -/
theorem quotable_dotId {name : String} (quotable : Text.Quotable name) :
    Text.Quotable (dotId name) := by
  intro c held
  rw [toList_dotId] at held
  obtain ⟨original, listed, rfl⟩ := List.mem_map.mp held
  unfold Text.underscoring
  split
  · decide
  · exact quotable original listed

/-- What is said on a line of a DOT text. -/
inductive Statement where
  /-- A node with its identifier, the name in it and the role that it is coloured by. -/
  | node (id name : String) (role : Role)
  /-- An edge with the identifiers of its ends, the field on it and the kind that it is drawn in. -/
  | edge (source target : String) (label : EdgeLabel)
deriving Repr, DecidableEq

/-- The statement of a type. -/
def Statement.ofNode (node : String × Role) : Statement := .node (dotId node.1) node.1 node.2

/-- The statement of an edge. -/
def Statement.ofEdge (edge : Edge) : Statement :=
  .edge (dotId edge.source) (dotId edge.target) edge.label

/-- What the parts of a line between its quotes say, if they are a statement. -/
def Statement.ofParts : List String → Option Statement
  | ["  ", id, " [label=", name, ", fillcolor=", colour, "];"] =>
    ([.entity, .embeddable].find? fun role => color role == colour).map (.node id name)
  | ["  ", source, " -> ", target, " [label=", field, rest] =>
    ([.embedded, .reference, .collection].find? fun kind =>
      ", style=" ++ style kind ++ "];" == rest).map fun kind => .edge source target ⟨field, kind⟩
  | _ => none

/-- What a line says, if it is a statement. Behind a backslash a quote would end no part. -/
def Statement.ofLine (line : List Char) : Option Statement :=
  if '\\' ∈ line then none
  else Statement.ofParts ((Text.pieces (· == '"') line).map String.ofList)

/-- The statements on the lines of a text. -/
def statements (text : List Char) : List Statement :=
  (Text.pieces (· == '\n') text).filterMap Statement.ofLine

/-- A line is read before those behind it. -/
theorem statements_line {line : List Char} (unbroken : '\n' ∉ line) (rest : List Char) :
    statements (line ++ '\n' :: rest) = (Statement.ofLine line).toList ++ statements rest := by
  have whole : ∀ c ∈ line, (c == '\n') = false := fun c held =>
    beq_false_of_ne fun same => unbroken (same ▸ held)
  rw [statements, Text.pieces_append_of_unseparated whole (by decide), List.filterMap_cons,
    statements]
  cases Statement.ofLine line <;> rfl

/-- A line of parts with quotes between them says the statement that the parts say. -/
theorem statements_parts {line : String} {parts : List String} {statement : Statement}
    (told : Statement.ofParts parts = some statement)
    (quotable : ∀ part ∈ parts, Text.Quotable part)
    (quoted : line.toList = ['"'].intercalate (parts.map String.toList) ++ ['\n'])
    (rest : List Char) :
    statements (line.toList ++ rest) = statement :: statements rest := by
  have nonempty : parts ≠ [] := by
    rintro rfl
    cases told
  have held : ∀ c ∈ ['"'].intercalate (parts.map String.toList), c ≠ '\\' ∧ c ≠ '\n' := by
    refine Text.forall_mem_intercalate (by decide) ?_
    simp only [List.forall_mem_map]
    exact fun part listed c inside => (quotable part listed c inside).2
  have divided : Text.pieces (· == '"') (['"'].intercalate (parts.map String.toList)) =
      parts.map String.toList := by
    apply Text.pieces_intercalate (by decide) (by simpa using nonempty)
    simp only [List.forall_mem_map]
    exact fun part listed c inside => beq_false_of_ne (quotable part listed c inside).1
  have texts : (parts.map String.toList).map String.ofList = parts := by
    simp [Function.comp_def]
  rw [quoted, List.append_assoc, List.singleton_append,
    statements_line fun broken => (held _ broken).2 rfl, Statement.ofLine,
    if_neg fun escaped => (held _ escaped).1 rfl, divided, texts, told]
  rfl

/-- The parts of the line of a type. -/
def nodeParts (node : String × Role) : List String :=
  ["  ", dotId node.1, " [label=", node.1, ", fillcolor=", color node.2, "];"]

/-- The line of a type says its statement. -/
theorem statements_nodeLine {node : String × Role} (name : Text.Quotable node.1)
    (rest : List Char) :
    statements ((nodeLine node).toList ++ rest) = Statement.ofNode node :: statements rest := by
  have quotable : ∀ part ∈ nodeParts node, Text.Quotable part := by
    have colour : Text.Quotable (color node.2) := by
      cases node.2 <;> decide
    simp only [nodeParts, List.forall_mem_cons]
    exact ⟨by decide, quotable_dotId name, by decide, name, by decide, colour, by decide, nofun⟩
  have quoted : (nodeLine node).toList =
      ['"'].intercalate ((nodeParts node).map String.toList) ++ ['\n'] := by
    simp [nodeLine, nodeParts]
  have told : Statement.ofParts (nodeParts node) = some (Statement.ofNode node) := by
    obtain ⟨name, role⟩ := node
    cases role <;> rfl
  exact statements_parts told quotable quoted rest

/-- The parts of the line of an edge. -/
def edgeParts (edge : Edge) : List String :=
  ["  ", dotId edge.source, " -> ", dotId edge.target, " [label=", edge.label.field,
    ", style=" ++ style edge.label.kind ++ "];"]

/-- The line of an edge says its statement. -/
theorem statements_edgeLine {edge : Edge} (source : Text.Quotable edge.source)
    (target : Text.Quotable edge.target) (field : Text.Quotable edge.label.field)
    (rest : List Char) :
    statements ((edgeLine edge).toList ++ rest) = Statement.ofEdge edge :: statements rest := by
  have quotable : ∀ part ∈ edgeParts edge, Text.Quotable part := by
    have drawn : Text.Quotable (", style=" ++ style edge.label.kind ++ "];") := by
      cases edge.label.kind <;> decide
    simp only [edgeParts, List.forall_mem_cons]
    exact ⟨by decide, quotable_dotId source, by decide, quotable_dotId target, by decide, field,
      drawn, nofun⟩
  have quoted : (edgeLine edge).toList =
      ['"'].intercalate ((edgeParts edge).map String.toList) ++ ['\n'] := by
    simp [edgeLine, edgeParts]
  have told : Statement.ofParts (edgeParts edge) = some (Statement.ofEdge edge) := by
    obtain ⟨_, ⟨_, kind⟩, _⟩ := edge
    cases kind <;> rfl
  exact statements_parts told quotable quoted rest

/-- A text has only lines that are no statements. -/
def Silent (text : String) : Prop :=
  text.toList.getLast? = some '\n' ∧ statements text.toList = []

instance : DecidablePred Silent := fun text =>
  inferInstanceAs (Decidable (text.toList.getLast? = some '\n' ∧ statements text.toList = []))

/-- Silent lines can be left out before other lines. -/
theorem Silent.statements_append {text : String} (silent : Silent text) (rest : List Char) :
    statements (text.toList ++ rest) = statements rest := by
  obtain ⟨ends, unstated⟩ := silent
  obtain ⟨front, same⟩ := List.getLast?_eq_some_iff.mp ends
  have divided (back : List Char) :
      statements (front ++ '\n' :: back) = statements front ++ statements back := by
    rw [statements, Text.pieces_append (by decide), List.filterMap_append]
    rfl
  rw [same, divided] at unstated
  rw [same, List.append_assoc, List.singleton_append, divided,
    (List.append_eq_nil_iff.mp unstated).1, List.nil_append]

/-- Silent lines before silent lines are silent. -/
theorem Silent.append {text other : String} (silent : Silent text) (silentToo : Silent other) :
    Silent (text ++ other) := by
  constructor
  · rw [String.toList_append, List.getLast?_append, silentToo.1]
    rfl
  · rw [String.toList_append, silent.statements_append, silentToo.2]

/-- The lines before the first statement hold no statement. -/
theorem silent_header : Silent header := by
  have defaults {shape fill edge : String} (shapes : Silent (shape ++ fill))
      (edges : Silent edge) : Silent (shape ++ (fill ++ edge)) := by
    rw [← String.append_assoc]
    exact shapes.append edges
  unfold header
  simp only [String.append_assoc]
  refine .append ?_ (.append ?_ (.append ?_ (defaults ?_ ?_)))
  all_goals decide +kernel

/-- Lines that say one statement each say one after the other. -/
theorem statements_join {α : Type} {items : List α} {line : α → String}
    {statement : α → Statement}
    (each : ∀ item ∈ items, ∀ rest,
      statements ((line item).toList ++ rest) = statement item :: statements rest)
    (rest : List Char) :
    statements ((String.join (items.map line)).toList ++ rest) =
      items.map statement ++ statements rest := by
  rw [String.toList_join, List.flatMap_map]
  induction items with
  | nil => rfl
  | cons item further ih =>
    rw [List.flatMap_cons, List.append_assoc, each item List.mem_cons_self,
      ih fun other listed => each other (List.mem_cons_of_mem item listed)]
    rfl

/-- All names in a graph may stand in quotes. -/
structure Quotable (graph : SchemaGraph) : Prop where
  /-- The names of the types. -/
  nodes : ∀ node ∈ graph.nodes, Text.Quotable node.1
  /-- The names of the ends and fields of the edges. -/
  edges : ∀ edge ∈ graph.edges,
    Text.Quotable edge.source ∧ Text.Quotable edge.target ∧ Text.Quotable edge.label.field

/-- Where all names may stand in quotes, the lines of a drawn graph say the statements of its nodes
and then those of its edges, and nothing else. -/
theorem statements_dot {graph : SchemaGraph} (quotable : graph.Quotable) :
    statements graph.dot.toList =
      graph.nodes.map Statement.ofNode ++ graph.edges.map Statement.ofEdge := by
  have nodes := statements_join fun node listed => statements_nodeLine (quotable.nodes node listed)
  have edges := statements_join fun edge listed =>
    statements_edgeLine (quotable.edges edge listed).1 (quotable.edges edge listed).2.1
      (quotable.edges edge listed).2.2
  have blank : Silent "\n" := by decide +kernel
  have closing : statements "\x7d\n".toList = [] := by decide +kernel
  unfold dot
  simp only [String.toList_append, List.append_assoc]
  rw [silent_header.statements_append, blank.statements_append, nodes, blank.statements_append,
    edges, closing, List.append_nil]

variable {registry : Registry}

/-- No two types of a graph have one identifier. -/
def DrawnApart (graph : SchemaGraph) : Prop := (graph.names.map dotId).Nodup

/-- An edge has the name of a field of a registered type. -/
theorem exists_field_of_mem_edges {edge : Edge} (drawn : edge ∈ (ofRegistry registry).edges) :
    ∃ role fields field, (role, edge.source, fields) ∈ registry.types ∧
      (edge.label.field, field) ∈ fields.entries := by
  obtain ⟨⟨role, source, fields⟩, held, inside⟩ := List.mem_flatMap.mp drawn
  obtain ⟨⟨name, field⟩, listed, found⟩ := List.mem_filterMap.mp inside
  change edge? registry source name field = some edge at found
  rw [edge?, Option.ite_none_right_eq_some] at found
  obtain rfl := Option.some.inj found.2
  exact ⟨role, fields, field, held, listed⟩

/-- An edge goes from a registered type to a registered type. -/
theorem registered_of_mem_edges {edge : Edge} (drawn : edge ∈ (ofRegistry registry).edges) :
    registry.contains edge.source = true ∧ registry.contains edge.target = true := by
  obtain ⟨role, fields, field, held, -⟩ := exists_field_of_mem_edges drawn
  constructor
  · rw [← mem_names_ofRegistry_iff]
    exact List.mem_map.mpr ⟨_, List.mem_map.mpr ⟨_, held, rfl⟩, rfl⟩
  · exact mem_names_ofRegistry_iff.mp (endsInside_ofRegistry registry edge drawn)

/-- Where no name stands in both halves, a graph has each type once. -/
theorem nodup_names_ofRegistry (apart : registry.Apart) : (ofRegistry registry).names.Nodup := by
  have names : (ofRegistry registry).names =
      registry.entities.names ++ registry.embeddables.names := by
    simp [SchemaGraph.names, ofRegistry, Registry.types, Table.names, Function.comp_def]
  rw [names, List.nodup_append']
  exact ⟨registry.entities.unique, registry.embeddables.unique, apart⟩

/-- The types are drawn apart exactly when no two of their names agree but for the characters that
are underscores in the end. -/
theorem drawnApart_ofRegistry_iff (apart : registry.Apart) :
    (ofRegistry registry).DrawnApart ↔
      ∀ type other, registry.contains type = true → registry.contains other = true →
        Text.AgreeBut isReplaced type.toList other.toList → type = other := by
  unfold DrawnApart
  rw [List.nodup_map_iff_inj_on (nodup_names_ofRegistry apart)]
  simp only [mem_names_ofRegistry_iff, dotId_eq_iff]
  exact ⟨fun apart type other held heldToo => apart type held other heldToo,
    fun apart type held other heldToo => apart type other held heldToo⟩

end SchemaGraph

open SchemaGraph

/-- The types of a discovered schema are declared. -/
theorem discoverSchema_declared (settings : CompilerSettings) {model : Model} {roots : List String}
    {type : String} (registered : (discoverSchema settings model roots).1.contains type = true) :
    ∃ decl ∈ model.types, decl.name = type := by
  have reachable := (discoverSchema_contains_iff settings model roots type).mp registered
  obtain ⟨decl, found, -⟩ := reachable.isSchemaType.marked
  exact ⟨decl, Model.lookup_mem found, Model.lookup_name found⟩

/-- The names in a schema discovered from declarations may stand in quotes if the declared names
may. -/
theorem discoverSchema_quotable (settings : CompilerSettings) {model : Model}
    (declared : ∀ decl ∈ model.types,
      Text.Quotable decl.name ∧ ∀ field ∈ decl.fields, Text.Quotable field.name)
    (roots : List String) :
    (SchemaGraph.ofRegistry (discoverSchema settings model roots).1).Quotable := by
  have types {type : String}
      (registered : (discoverSchema settings model roots).1.contains type = true) :
      Text.Quotable type := by
    obtain ⟨decl, stands, rfl⟩ := discoverSchema_declared settings registered
    exact (declared decl stands).1
  constructor
  · intro node listed
    exact types (mem_names_ofRegistry_iff.mp (List.mem_map_of_mem listed))
  · intro edge drawn
    obtain ⟨source, target⟩ := registered_of_mem_edges drawn
    refine ⟨types source, types target, ?_⟩
    obtain ⟨role, fields, field, held, listed⟩ := exists_field_of_mem_edges drawn
    have looked := (discoverSchema_apart settings model roots).mem_types_iff.mp ⟨role, held⟩
    obtain ⟨-, rfl⟩ := (discoverSchema_lookup_eq_some_iff settings model roots).mp looked
    obtain ⟨decl, stands, member, inside, same⟩ :=
      Classifier.exists_declared_of_mem_fieldsOf listed
    exact same ▸ (declared decl stands).2 member inside

/-- A drawn schema has a node for each of its types, each once, and an edge for each edge of its
graph, if all names may stand in quotes. The identifiers tell the types apart exactly when no two of
their names agree but for the characters that are underscores in the end, as is so where at most one
such character is in use; then each side of an edge has the identifier of one type only. -/
theorem discoverSchema_drawnApart_iff (settings : CompilerSettings) (model : Model)
    (roots : List String) :
    let registry := (discoverSchema settings model roots).1
    let graph := SchemaGraph.ofRegistry registry
    (graph.names.Nodup ∧ ∀ type, type ∈ graph.names ↔ registry.contains type = true) ∧
      (graph.Quotable → statements graph.dot.toList =
        graph.nodes.map Statement.ofNode ++ graph.edges.map Statement.ofEdge) ∧
      (graph.DrawnApart ↔
        ∀ type other, registry.contains type = true → registry.contains other = true →
          Text.AgreeBut isReplaced type.toList other.toList → type = other) ∧
      ((∃ shared, ∀ type, registry.contains type = true →
          ∀ c ∈ type.toList, Text.EndsUnderscore isReplaced c → c = shared) → graph.DrawnApart) ∧
      (graph.DrawnApart → ∀ edge ∈ graph.edges,
        (∃! type, registry.contains type = true ∧ dotId type = dotId edge.source) ∧
          ∃! type, registry.contains type = true ∧ dotId type = dotId edge.target) := by
  intro registry graph
  have apart : registry.Apart := discoverSchema_apart settings model roots
  have names {type : String} : type ∈ graph.names ↔ registry.contains type = true :=
    mem_names_ofRegistry_iff
  have exact_iff := drawnApart_ofRegistry_iff apart
  refine ⟨⟨nodup_names_ofRegistry apart, fun type => names⟩, statements_dot, exact_iff, ?_, ?_⟩
  · rintro ⟨shared, only⟩
    refine exact_iff.mpr fun type other held heldToo agree => ?_
    apply String.toList_injective
    apply agree.eq
    intro c listed d listedToo ends endsToo
    rw [only type held c listed ends, only other heldToo d listedToo endsToo]
  · intro drawnApart edge drawn
    have one {side : String} (registered : registry.contains side = true) :
        ∃! type, registry.contains type = true ∧ dotId type = dotId side := by
      refine ⟨side, ⟨registered, rfl⟩, ?_⟩
      rintro type ⟨held, same⟩
      exact exact_iff.mp drawnApart type side held registered (dotId_eq_iff.mp same)
    obtain ⟨source, target⟩ := registered_of_mem_edges drawn
    exact ⟨one source, one target⟩

/-- The statements of orders and customers that refer to each other tell them apart. -/
theorem customerOrders_drawnApart :
    (SchemaGraph.ofRegistry (discoverSchema .standard customerOrders ["Order"]).1).Quotable ∧
      let graph := SchemaGraph.ofRegistry (discoverSchema .standard customerOrders ["Order"]).1
      statements graph.dot.toList =
          graph.nodes.map Statement.ofNode ++ graph.edges.map Statement.ofEdge ∧
        graph.DrawnApart := by
  have quotable : (SchemaGraph.ofRegistry
      (discoverSchema .standard customerOrders ["Order"]).1).Quotable :=
    discoverSchema_quotable .standard (by decide) ["Order"]
  have plain : ∀ decl ∈ customerOrders.types,
      decl.name.toList.all (¬Text.EndsUnderscore isReplaced ·) = true := by
    decide
  obtain ⟨-, drawn, -, apart, -⟩ := discoverSchema_drawnApart_iff .standard customerOrders ["Order"]
  refine ⟨quotable, drawn quotable, apart ⟨'_', ?_⟩⟩
  intro type registered c listed ends
  obtain ⟨decl, stands, rfl⟩ := discoverSchema_declared .standard registered
  have stays := List.all_eq_true.mp (plain decl stands) c listed
  exact absurd ends (of_decide_eq_true stays)

/-- Two entities whose names differ in a character for which an underscore is written. -/
def shopOrders : Model where
  types := [{ Compilation.plainType "shop.Order" with isEntity := true },
    { Compilation.plainType "shop_Order" with isEntity := true }]
  unique := by decide
  checksum := none

/-- `shop.Order` and `shop_Order` are types of the schema and have one identifier. -/
theorem shopOrders_identified :
    let registry := (discoverSchema .standard shopOrders ["shop.Order", "shop_Order"]).1
    registry.contains "shop.Order" = true ∧ registry.contains "shop_Order" = true ∧
      "shop.Order" ≠ "shop_Order" ∧ dotId "shop.Order" = dotId "shop_Order" ∧
      ¬(SchemaGraph.ofRegistry registry).DrawnApart := by
  intro registry
  have registered {type : String} (root : type ∈ ["shop.Order", "shop_Order"])
      (marked : (CompilerSettings.standard.classifier shopOrders).IsSchemaType type) :
      registry.contains type = true :=
    (discoverSchema_contains_iff .standard shopOrders _ type).mpr
      (Classifier.reachable_root root marked)
  have dotted := registered List.mem_cons_self (.inl (by decide))
  have underscored := registered (List.mem_cons_of_mem _ List.mem_cons_self) (.inl (by decide))
  have same : dotId "shop.Order" = dotId "shop_Order" := by
    apply String.toList_injective
    rw [toList_dotId, toList_dotId]
    decide
  have differ : "shop.Order" ≠ "shop_Order" := by decide
  refine ⟨dotted, underscored, differ, same, fun drawnApart => differ ?_⟩
  exact List.inj_on_of_nodup_map drawnApart (mem_names_ofRegistry_iff.mpr dotted)
    (mem_names_ofRegistry_iff.mpr underscored) same

end SchemaProjection
