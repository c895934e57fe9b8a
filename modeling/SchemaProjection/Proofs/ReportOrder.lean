import SchemaProjection.Proofs.DiscoveryRuns
import SchemaProjection.Proofs.Report

/-!
# The order of reports

The registries of a compilation keep the order in which their names came, and the document of the
compilation has the members of its objects in this order (`Compilation.Lists.namesAt?_json`). A
report has them in ascending order of their names (`Command.namesAt?_report`). So it keeps the
order of a registry only where that was ascending already.
-/
namespace SchemaProjection

open Json (Key)

namespace Json.Value

/-- The names of the members of an object. -/
def names? : Value → Option (List String)
  | .object members => some (members.map Prod.fst)
  | _ => none

/-- The names of the members of the object at an address. -/
def namesAt? (value : Value) (address : List Key) : Option (List String) :=
  (value.at? address).bind names?

/-- An object that is put in order has the same names in ascending order. -/
theorem names?_sorted {value : Value} {names : List String} (listed : value.names? = some names) :
    ∃ ascending, value.sorted.names? = some ascending ∧ ascending.Perm names ∧
      ascending.Pairwise (· ≤ ·) := by
  cases value with
  | object members =>
    cases listed
    refine ⟨_, by rw [sorted, names?], ?_, ?_⟩
    · rw [← names_sortedMembers members, ← sortedMembers_eq]
      exact (List.mergeSort_perm _ _).map Prod.fst
    · have ordered := @List.pairwise_mergeSort _
        (fun left right : String × Value => decide (left.1 ≤ right.1))
        (fun _ _ _ below above => decide_eq_true
          (String.le_trans (of_decide_eq_true below) (of_decide_eq_true above)))
        (fun left right => by simpa using String.le_total left.1 right.1) (sortedMembers members)
      simpa only [List.pairwise_map, decide_eq_true_eq] using ordered
  | null | bool | text | array => cases listed

end Json.Value

/-- The document of a table has its names in order. -/
theorem Table.names?_json {α : Type} (write : α → Json.Value) (table : Table α) :
    (table.json write).names? = some table.names := by
  rw [Table.json, Json.Value.names?, List.map_map]
  rfl

/-- In the document of a table each value stands under its name. -/
theorem Table.child?_json {α : Type} (write : α → Json.Value) {table : Table α} {name : String}
    {value : α} (found : table.find? name = some value) :
    (table.json write).child? (.name name) = some (write value) := by
  rw [Table.json, Json.Value.child?, Entries.lookup_map]
  exact congrArg (Option.map write) found

/-- The name of a half of a registry in its document. -/
def Role.heading : Role → String
  | .entity => "entities"
  | .embeddable => "embeddables"

namespace Compilation

/-- A list of names that a compilation keeps in order, and its address in a document of the
compilation. -/
inductive Lists (compilation : Compilation) : List Key → List String → Prop
  /-- The types of a role. -/
  | types (role : Role) :
    Lists compilation [.name "schema", .name role.heading] (compilation.schema.half role).names
  /-- The fields of a type. -/
  | fields {role : Role} {type : String} {fields : Table Field}
    (found : (compilation.schema.half role).find? type = some fields) :
    Lists compilation [.name "schema", .name role.heading, .name type] fields.names
  /-- The views. -/
  | views : Lists compilation [.name "projections"] (compilation.views.map Prod.fst)

variable {compilation : Compilation} {address : List Key} {names : List String}

/-- In the document of a compilation stands the table of each role under its heading. -/
theorem at?_heading (compilation : Compilation) (role : Role) (address : List Key) :
    compilation.json.at? (.name "schema" :: .name role.heading :: address) =
      ((compilation.schema.half role).json (Table.json Field.format.writeJson)).at? address := by
  cases role <;> rfl

/-- The document of a compilation keeps the order of all its lists of names. -/
theorem Lists.namesAt?_json (lists : compilation.Lists address names) :
    compilation.json.namesAt? address = some names := by
  cases lists with
  | types role =>
    rw [Json.Value.namesAt?, at?_heading]
    exact Table.names?_json _ _
  | fields found =>
    rw [Json.Value.namesAt?, at?_heading, Json.Value.at?, Table.child?_json _ found]
    exact Table.names?_json _ _
  | views =>
    have views : compilation.json.at? [.name "projections"] =
        some (.object (compilation.views.map fun entry =>
          (entry.1, View.format.writeJson entry.2))) := rfl
    rw [Json.Value.namesAt?, views, Option.bind_some, Json.Value.names?, List.map_map]
    rfl

/-- No list of names stands where the time does. -/
theorem Lists.exists_name (lists : compilation.Lists address names) :
    ∃ name rest, address = .name name :: rest ∧ name ≠ "generated_at" := by
  cases lists with
  | types | fields => exact ⟨"schema", _, rfl, by decide⟩
  | views => exact ⟨"projections", [], rfl, by decide⟩

end Compilation

namespace Command

/-- Names in ascending order are the only ascending order of themselves. -/
theorem eq_iff_pairwise {names ascending : List String} (same : ascending.Perm names)
    (ordered : ascending.Pairwise (· ≤ ·)) : ascending = names ↔ names.Pairwise (· ≤ ·) := by
  constructor
  · rintro rfl
    exact ordered
  · exact fun ascends =>
      same.eq_of_pairwise (fun _ _ _ _ below above => String.le_antisymm below above) ordered
        ascends

/-- A document lists names in ascending order at an address, and so in the order in which they are
given only if that is ascending. -/
structure ListsAscending (report : Json.Value) (address : List Key) (names : List String) :
    Prop where
  /-- The report lists the names in ascending order. -/
  listed : ∃ ascending, report.namesAt? address = some ascending ∧ ascending.Perm names ∧
    ascending.Pairwise (· ≤ ·)
  /-- The report keeps the order in which the names are given exactly if it is ascending. -/
  keeps_iff : report.namesAt? address = some names ↔ names.Pairwise (· ≤ ·)

/-- A report lists in ascending order what the compilation keeps in order. -/
theorem namesAt?_report {compilation : Compilation} {address : List Key} {names : List String}
    {includesSchema : Bool} (time : String) (unique : (compilation.views.map Prod.fst).Nodup)
    (lists : compilation.Lists address names)
    (wanted : ∀ rest, address = .name "schema" :: rest → includesSchema = true) :
    ListsAscending (report time includesSchema compilation) address names := by
  obtain ⟨name, rest, rfl, other⟩ := lists.exists_name
  have kept : name = "schema" → includesSchema = true := by
    rintro rfl
    exact wanted rest rfl
  have held := lists.namesAt?_json
  rw [Json.Value.namesAt?, Option.bind_eq_some_iff] at held
  obtain ⟨value, stands, named⟩ := held
  obtain ⟨ascending, sorted, same, ordered⟩ := Json.Value.names?_sorted named
  have listed : (report time includesSchema compilation).namesAt? (.name name :: rest) =
      some ascending := by
    rw [Json.Value.namesAt?, at?_report unique other kept, stands]
    exact sorted
  refine ⟨⟨ascending, listed, same, ordered⟩, ?_⟩
  rw [listed, Option.some_inj, eq_iff_pairwise same ordered]

variable {arguments : List String} {declarations file output : Option String} {compact : Bool}
  {surroundings : Surroundings} {settings : Settings} {model : Model}

/-- Whatever the settings and the declarations of a directory are, a run that is asked to compile
them delivers a text of a report, and either layout is read as this report. It lists the entity
types, the embeddable types, the fields of each type and the views in ascending order, whereas the
document of the compilation lists them as the registries do; the order is the same only where it is
ascending in the registry. The lines of a log that a filter in the environment turns on are no part
of a program, and nothing is logged by default. -/
theorem compile_delivers_ascending
    (asks : Tool.compiler.invocation arguments =
      .ok (.compiler ⟨declarations, file, .compile output compact⟩))
    (configured : surroundings.settings file = .ok settings)
    (loads : Model.ofDirectory settings.declarations.rules
      (declarations.getD settings.declarations.path)
      (surroundings.at? (declarations.getD settings.declarations.path)) = .ok model)
    (time : String) (tree : FileTree) (working : List String) :
    let compilation := (Compilation.run settings.compiler model).withChecksum model.checksum
    let outcome := (Tool.compiler.program surroundings time arguments).perform tree working
    ∃ report : Json.Value,
      (∀ text ∈ [report.compact, report.pretty],
        Json.Partial.ofText text = (report.tree, true) ∧
          Json.Partial.ofText (text ++ "\n") = (report.tree, true)) ∧
      Delivers
        (if compact || settings.output.layout = .compact then report.compact else report.pretty)
        (compilation.hasErrors = true) tree working outcome output ∧
      ∀ address names, compilation.Lists address names →
        (∀ rest, address = .name "schema" :: rest → settings.output.includesSchema = true) →
          compilation.json.namesAt? address = some names ∧
            ListsAscending report address names := by
  intro compilation outcome
  have unique : (compilation.views.map Prod.fst).Nodup :=
    Compilation.run_names_nodup settings.compiler model
  exact ⟨report time settings.output.includesSchema compilation, ofText_layouts _,
    program_delivers asks configured loads time tree working, fun address names lists wanted =>
      ⟨lists.namesAt?_json, namesAt?_report time unique lists wanted⟩⟩

/-- A document with an entity and two views of it, which are not in the order of their names. -/
def desksDocument : Json.Value :=
  let view (name : String) : Json.Value := .object [("name", .text name),
    ("projection", .object [("source", .text "Desk")])]
  let desk : Json.Value := .object [("name", .text "Desk"), ("entity", .bool true)]
  .object [("types", .array [desk, view "Summary", view "Listing"])]

/-- A view of a desk without fields. -/
def deskView (name : String) : TypeDecl :=
  { Model.named name with projection := some ⟨"Desk", []⟩ }

/-- A desk. -/
def desk : TypeDecl := { Model.named "Desk" with isEntity := true }

/-- A directory with the document of the desks, where there are no settings. -/
def desks : Surroundings where
  at? path :=
    if path = "declarations" then
      some (.directory [("shop.json", .file (Checksum.textBytes desksDocument.compact))])
    else none
  home := none
  environment := []

/-- The model of the document of the desks. -/
def desksModel : Model :=
  ⟨[desk, deskView "Summary", deskView "Listing"], by decide,
    some (.ofContent desksDocument.compact)⟩

/-- The document of the desks is loaded. -/
theorem desks_loads :
    Model.ofDirectory .standard "declarations" (desks.at? "declarations") = .ok desksModel :=
  loads_of_document desksDocument rfl rfl

/-- Both views of the desks are compiled, in the order in which they are declared. -/
theorem desks_views :
    (Compilation.run .standard desksModel).views.map Prod.fst = ["Summary", "Listing"] := by
  let compiler := CompilerSettings.standard.viewCompiler desksModel
    (Compilation.run .standard desksModel).schema
  have registered : compiler.registry.contains "Desk" = true :=
    (discoverSchema_contains_iff .standard desksModel desksModel.sources "Desk").mpr
      (Classifier.reachable_root (by decide) (.inl (by decide)))
  have compiles : ∀ view ∈ desksModel.views, compiler.compiles view = true := by
    have views : desksModel.views = [deskView "Summary", deskView "Listing"] := rfl
    rw [views, List.forall_mem_cons, List.forall_mem_singleton]
    have compiles (name : String) (found : desksModel.lookup name = some (deskView name)) :
        compiler.compiles (deskView name) = true := by
      have fieldless : compiler.model.mappedFields name = [] := by
        change desksModel.mappedFields name = []
        rw [Model.mappedFields, Model.effectiveFields, Model.ancestry_of_parentless found rfl]
        rfl
      obtain ⟨view, compiled⟩ := (@ViewCompiler.exists_compile_iff compiler name ⟨"Desk", []⟩).mpr
        ⟨registered, fieldless ▸ List.forall_mem_nil _⟩
      change (compiler.compile name ⟨"Desk", []⟩).toBool = true
      rw [compiled]
      rfl
    exact ⟨compiles "Summary" rfl, compiles "Listing" rfl⟩
  rw [Compilation.run_names, List.filter_eq_self.mpr compiles]
  rfl

/-- The compiler is asked for a report. -/
theorem desks_asks : Tool.compiler.invocation ["compile"] =
    .ok (.compiler ⟨none, none, .compile none false⟩) := rfl

/-- A report that lists the views of the desks in ascending order turns their order around. -/
theorem namesAt?_desks {report : Json.Value}
    (lists : ListsAscending report [.name "projections"] ["Summary", "Listing"]) :
    report.namesAt? [.name "projections"] = some ["Listing", "Summary"] := by
  obtain ⟨ascending, listed, same, ordered⟩ := lists.listed
  have other : ascending = ["Listing", "Summary"] :=
    (eq_iff_pairwise (same.trans (.swap ..)) ordered).mpr (by decide)
  rw [listed, other]

/-- The two views of the desks are printed in the order of their names, which is neither that of
their registry nor that of its document. -/
theorem desks_reordered :
    let compilation := (Compilation.run .standard desksModel).withChecksum desksModel.checksum
    let outcome :=
      (Tool.compiler.program desks "2024-05-01T10:00:00+00:00" ["compile"]).perform .empty
    Model.ofDirectory .standard "declarations" (desks.at? "declarations") = .ok desksModel ∧
      compilation.Lists [.name "projections"] ["Summary", "Listing"] ∧
      compilation.json.namesAt? [.name "projections"] = some ["Summary", "Listing"] ∧
      ∃ report : Json.Value, outcome.output = report.pretty ++ "\n" ∧
        Json.Partial.ofText outcome.output = (report.tree, true) ∧
        report.namesAt? [.name "projections"] = some ["Listing", "Summary"] := by
  intro compilation outcome
  have lists : compilation.Lists [.name "projections"] ["Summary", "Listing"] :=
    desks_views ▸ .views
  let report := report "2024-05-01T10:00:00+00:00" true compilation
  have ascending : ListsAscending report [.name "projections"] ["Summary", "Listing"] :=
    namesAt?_report _ (Compilation.run_names_nodup .standard desksModel) lists fun _ _ => rfl
  have configured : desks.settings none = .ok .standard := rfl
  refine ⟨desks_loads, lists, lists.namesAt?_json, report, ?_⟩
  have delivers : Delivers report.pretty (compilation.hasErrors = true) .empty [] outcome none :=
    program_delivers desks_asks configured desks_loads "2024-05-01T10:00:00+00:00" .empty []
  have printed := delivers.output_eq
  exact ⟨printed, printed ▸ (ofText_layouts report report.pretty (by simp)).2,
    namesAt?_desks ascending⟩

/-- The report of the desks does not keep the order of their views. -/
theorem desks_delivers_ascending :
    (Tool.compiler.invocation ["compile"] = .ok (.compiler ⟨none, none, .compile none false⟩) ∧
      desks.settings none = .ok .standard ∧
      Model.ofDirectory .standard "declarations" (desks.at? "declarations") = .ok desksModel) ∧
    let compilation := (Compilation.run .standard desksModel).withChecksum desksModel.checksum
    let outcome :=
      (Tool.compiler.program desks "2024-05-01T10:00:00+00:00" ["compile"]).perform .empty
    ∃ report : Json.Value, Json.Partial.ofText report.compact = (report.tree, true) ∧
      Delivers report.pretty (compilation.hasErrors = true) .empty [] outcome none ∧
      compilation.json.namesAt? [.name "projections"] = some ["Summary", "Listing"] ∧
      report.namesAt? [.name "projections"] = some ["Listing", "Summary"] := by
  have configured : desks.settings none = .ok .standard := rfl
  refine ⟨⟨desks_asks, configured, desks_loads⟩, ?_⟩
  obtain ⟨report, layouts, delivers, ascending⟩ :=
    compile_delivers_ascending desks_asks configured desks_loads "2024-05-01T10:00:00+00:00" .empty
      []
  obtain ⟨kept, lists⟩ :=
    ascending [.name "projections"] ["Summary", "Listing"] (desks_views ▸ .views) fun _ _ => rfl
  exact ⟨report, (layouts report.compact (by simp)).1, delivers, kept, namesAt?_desks lists⟩

end Command

end SchemaProjection
