import SchemaProjection.Proofs.Accounting
import SchemaProjection.Proofs.BundleChecksum
import SchemaProjection.Proofs.DroppedViews
import SchemaProjection.Proofs.JsonAddress
import SchemaProjection.Proofs.JsonPretty
import SchemaProjection.Proofs.WrittenFile

/-!
# Reports of compilations

What is written of a compilation holds what its document holds, and besides the time; only the
schema is left out, if it is not wanted (`Command.Reports`). Both layouts are read back as this
report. It is printed or written to a file also when there are errors, and the exit code tells
whether there are, unless the file cannot be written (`Command.Delivers`).
-/
namespace SchemaProjection

/-- An entry of another name does not matter to what is found. -/
theorem Entries.lookup_filter_ne {α : Type} (entries : List (String × α)) {left name : String}
    (other : name ≠ left) :
    (entries.filter fun entry => entry.1 != left).lookup name = entries.lookup name := by
  induction entries with
  | nil => rfl
  | cons entry rest ih =>
    obtain ⟨held, value⟩ := entry
    rw [Entries.lookup_cons]
    by_cases same : held = left
    · rw [List.filter_cons_of_neg (by simpa using same), if_neg (same ▸ other), ih]
    · rw [List.filter_cons_of_pos (by simpa using same), Entries.lookup_cons, ih]

open Json.Value (Alike Distinct)

/-- A table of distinct documents is a distinct document. -/
theorem Table.distinct_json {α : Type} {write : α → Json.Value}
    (each : ∀ value, (write value).Distinct) (table : Table α) : (table.json write).Distinct := by
  refine .object ?_ (List.forall_mem_map.mpr fun entry _ => each entry.2)
  rw [List.map_map]
  exact table.unique

/-- The document of a registry is distinct. -/
theorem Registry.distinct_json (registry : Registry) : registry.json.Distinct := by
  have fields (table : Table (Table Field)) :
      (table.json (Table.json Field.format.writeJson)).Distinct :=
    Table.distinct_json (Table.distinct_json (Field.format.distinct_writeJson rfl)) table
  refine .object (by simp) ?_
  simp only [List.forall_mem_cons]
  exact ⟨fields registry.entities, fields registry.embeddables, List.forall_mem_nil _⟩

namespace Compilation

/-- A compilation has errors exactly if one was reported. -/
theorem hasErrors_iff (compilation : Compilation) : compilation.hasErrors = true ↔
    ∃ item ∈ compilation.diagnostics.items, item.severity = .error := by
  simp [hasErrors, Diagnostics.hasErrors, Diagnostics.errors, Diagnostics.ofSeverity]

/-- The members of the document of a compilation. -/
def members (compilation : Compilation) : List (String × Json.Value) :=
  [("schema", compilation.schema.json),
    ("projections", .object (compilation.views.map fun (name, view) =>
      (name, View.format.writeJson view))),
    ("diagnostics", Diagnostics.format.writeJson compilation.diagnostics)] ++
    (compilation.checksum.map fun checksum => ("checksum", .text checksum.text)).toList

/-- The document of a compilation is the object of its members. -/
theorem json_eq (compilation : Compilation) : compilation.json = .object compilation.members := rfl

/-- The members of a compilation have different names, and none has that of the time. -/
theorem names_members (compilation : Compilation) :
    ("generated_at" :: compilation.members.map Prod.fst).Nodup := by
  rw [members]
  cases compilation.checksum <;> simp

/-- The members of a compilation are distinct documents if no view stands twice. -/
theorem distinct_members {compilation : Compilation}
    (unique : (compilation.views.map Prod.fst).Nodup) :
    ∀ member ∈ compilation.members, member.2.Distinct := by
  have views : (Json.Value.object (compilation.views.map fun (name, view) =>
      (name, View.format.writeJson view))).Distinct := by
    refine .object ?_ (List.forall_mem_map.mpr fun view _ => View.format.distinct_writeJson rfl _)
    rwa [List.map_map]
  have diagnostics : (Diagnostics.format.writeJson compilation.diagnostics).Distinct :=
    Diagnostics.format.distinct_writeJson rfl _
  rw [members, List.forall_mem_append]
  simp only [List.forall_mem_cons]
  refine ⟨⟨compilation.schema.distinct_json, views, diagnostics, List.forall_mem_nil _⟩, ?_⟩
  cases compilation.checksum with
  | none => exact List.forall_mem_nil _
  | some checksum => exact List.forall_mem_singleton.mpr (.text checksum.text)

/-- The document of a compilation in which each view stands once is distinct. -/
theorem distinct_json {compilation : Compilation}
    (unique : (compilation.views.map Prod.fst).Nodup) : compilation.json.Distinct :=
  .object compilation.names_members.of_cons (distinct_members unique)

end Compilation

namespace Command

/-- A document reports a compilation at a time. -/
structure Reports (compilation : Compilation) (time : String) (includesSchema : Bool)
    (report : Json.Value) : Prop where
  /-- The report is an object. -/
  isObject : ∃ members, report = .object members
  /-- No object in it has two members of one name. -/
  distinct : report.Distinct
  /-- The report tells the time. -/
  time : report.at? [.name "generated_at"] = some (.text time)
  /-- Without the schema it holds no such member. -/
  schema : includesSchema = false → report.at? [.name "schema"] = none
  /-- Under every other name it holds what the document of the compilation holds, or neither holds a
  member of the name. -/
  same : ∀ name, name ≠ "generated_at" → (name = "schema" → includesSchema = true) →
    Option.Rel Alike (report.at? [.name name]) (compilation.json.at? [.name name])

/-- The members of a report before they are put in order. -/
def reportMembers (time : String) (includesSchema : Bool) (compilation : Compilation) :
    List (String × Json.Value) :=
  let members := ("generated_at", .text time) :: compilation.members
  if includesSchema then members else members.filter fun member => member.1 != "schema"

/-- A report is the object of its members in the order of their names. -/
theorem report_eq (time : String) (includesSchema : Bool) (compilation : Compilation) :
    report time includesSchema compilation =
      (Json.Value.object (reportMembers time includesSchema compilation)).sorted := rfl

variable {compilation : Compilation} {time : String} {includesSchema : Bool}

/-- The members of a report are the time and some members of the compilation. -/
theorem reportMembers_sublist :
    (reportMembers time includesSchema compilation).Sublist
      (("generated_at", .text time) :: compilation.members) := by
  rw [reportMembers]
  split
  · exact List.Sublist.refl _
  · exact List.filter_sublist

/-- The members of a report hold what the compilation holds, but for the schema. -/
theorem lookup_reportMembers {name : String} (kept : name = "schema" → includesSchema = true) :
    (reportMembers time includesSchema compilation).lookup name =
      List.lookup name (("generated_at", .text time) :: compilation.members) := by
  rw [reportMembers]
  split
  · rfl
  · next left => exact Entries.lookup_filter_ne _ fun same => left (kept same)

/-- If each view stands once, no object in a report has two members of one name. -/
theorem distinct_reportMembers (time : String) (includesSchema : Bool)
    (unique : (compilation.views.map Prod.fst).Nodup) :
    (Json.Value.object (reportMembers time includesSchema compilation)).Distinct := by
  refine .object (compilation.names_members.sublist (reportMembers_sublist.map Prod.fst)) ?_
  intro member listed
  obtain rfl | listed := List.mem_cons.mp (reportMembers_sublist.subset listed)
  · exact .text time
  · exact compilation.distinct_members unique member listed

/-- Apart from the time and from a schema that is not wanted, there stands in a report what stands
in the document of the compilation, in order. -/
theorem at?_report (unique : (compilation.views.map Prod.fst).Nodup) {name : String}
    (other : name ≠ "generated_at") (kept : name = "schema" → includesSchema = true)
    (address : List Json.Key) :
    (report time includesSchema compilation).at? (.name name :: address) =
      (compilation.json.at? (.name name :: address)).map Json.Value.sorted := by
  rw [report_eq, (distinct_reportMembers time includesSchema unique).at?_sorted, Json.Value.at?,
    Json.Value.child?, lookup_reportMembers kept, Entries.lookup_cons, if_neg other,
    compilation.json_eq]
  rfl

/-- The report of a compilation in which each view stands once reports it. -/
theorem report_reports (time : String) (includesSchema : Bool)
    (unique : (compilation.views.map Prod.fst).Nodup) :
    Reports compilation time includesSchema (report time includesSchema compilation) := by
  have distinct := distinct_reportMembers time includesSchema unique
  refine ⟨⟨_, rfl⟩, distinct.sorted, ?_, ?_, ?_⟩
  · rw [report_eq, distinct.at?_sorted, Json.Value.at?, Json.Value.child?,
      lookup_reportMembers (by simp)]
    rfl
  · rintro rfl
    have left : (reportMembers time false compilation).lookup "schema" = none := by
      rw [List.lookup_eq_none_iff]
      intro member listed
      rw [bne_comm]
      exact (List.mem_filter.mp listed).2
    rw [report_eq, distinct.at?_sorted, Json.Value.at?, Json.Value.child?, left]
    rfl
  · intro name other kept
    rw [at?_report unique other kept]
    cases found : compilation.json.at? [.name name] with
    | none => exact .none
    | some part =>
      obtain ⟨member, child, same⟩ := Option.bind_eq_some_iff.mp found
      obtain rfl : member = part := Option.some.inj same
      exact .some ((compilation.distinct_json unique).child child).alike_sorted

/-- What becomes of a content in a run in a working directory, by the file that is asked for. -/
inductive Delivers (content : String) (failed : Prop) (tree : FileTree) (working : List String)
    (outcome : Outcome) : Option String → Prop
  /-- Without a file the content is all that is printed, on a line, and the exit code tells whether
  there are errors. -/
  | printed (output : outcome.output = content ++ "\n") (files : outcome.tree = tree)
    (code : outcome.code ≠ 0 ↔ failed) : Delivers content failed tree working outcome none
  /-- The content is written to the file, no other file is touched, and the exit code tells
  whether there are errors. -/
  | written {path : String}
    (writes : tree.Writes working path (Checksum.textBytes content) outcome.tree)
    (code : outcome.code ≠ 0 ↔ failed) : Delivers content failed tree working outcome (some path)
  /-- The file cannot be written, and the run fails for that. -/
  | refused {path : String} (write : tree.write? path (Checksum.textBytes content) working = none)
    (files : outcome.tree = tree) (finish : outcome.finish = .fail (.unwritable path)) :
    Delivers content failed tree working outcome (some path)

/-- What is delivered without a file is printed. -/
theorem Delivers.output_eq {content : String} {failed : Prop} {tree : FileTree}
    {working : List String} {outcome : Outcome}
    (delivers : Delivers content failed tree working outcome none) :
    outcome.output = content ++ "\n" := by
  cases delivers with
  | printed output => exact output

/-- A file that is written does not end a run. -/
theorem performFrom_written {working : List String} (outcome : Outcome) {path content : String}
    {after : FileTree}
    (write : outcome.tree.write? path (Checksum.textBytes content) working = some after)
    (rest : List Step) :
    performFrom working outcome (.write path content :: rest) =
      performFrom working { outcome with tree := after } rest := by
  rw [performFrom, write]

/-- A file that cannot be written ends a run. -/
theorem performFrom_unwritten {working : List String} (outcome : Outcome) {path content : String}
    (write : outcome.tree.write? path (Checksum.textBytes content) working = none)
    (rest : List Step) :
    performFrom working outcome (.write path content :: rest) =
      { outcome with finish := .fail (.unwritable path) } := by
  rw [performFrom, write]

/-- Warnings change neither files nor the output nor the end. -/
theorem performFrom_warnings (working : List String) (outcome : Outcome) (texts : List String) :
    (performFrom working outcome (texts.map .warn)).tree = outcome.tree ∧
      (performFrom working outcome (texts.map .warn)).output = outcome.output ∧
        (performFrom working outcome (texts.map .warn)).finish = outcome.finish := by
  induction texts generalizing outcome with
  | nil => exact ⟨rfl, rfl, rfl⟩
  | cons text rest ih => exact ih { outcome with warnings := outcome.warnings ++ text }

/-- The exit code of a run that ends with one. -/
theorem code_of_finish {outcome : Outcome} {code : Nat} (finish : outcome.finish = .exit code) :
    outcome.code = code := by
  rw [Outcome.code, finish]

/-- The steps in which a content is printed, or is written to a file and noted. -/
def deliverySteps (content : String) (note : String → String) : Option String → List Step
  | some path => [.write path content, say (note path)]
  | none => [say content]

/-- After its delivery steps and some warnings a content is delivered. -/
theorem delivers_of_steps (content : String) (note : String → String) (texts : List String)
    {code : Nat} {failed : Prop} (tells : code ≠ 0 ↔ failed) (output : Option String)
    (tree : FileTree) (working : List String) :
    Delivers content failed tree working
      (Program.perform ⟨deliverySteps content note output ++ texts.map .warn, .exit code⟩ tree
        working) output := by
  cases output with
  | none =>
    obtain ⟨files, printed, finish⟩ :=
      performFrom_warnings working ⟨tree, "" ++ (content ++ "\n"), "", .exit code⟩ texts
    exact .printed (printed.trans String.empty_append) files ((code_of_finish finish).symm ▸ tells)
  | some path =>
    cases write : tree.write? path (Checksum.textBytes content) working with
    | none =>
      rw [Program.perform, deliverySteps, List.cons_append,
        performFrom_unwritten ⟨tree, "", "", .exit code⟩ write]
      exact .refused write rfl rfl
    | some after =>
      rw [Program.perform, deliverySteps, List.cons_append,
        performFrom_written ⟨tree, "", "", .exit code⟩ write]
      obtain ⟨files, -, finish⟩ :=
        performFrom_warnings working ⟨after, "" ++ (note path ++ "\n"), "", .exit code⟩ texts
      exact .written (files ▸ FileTree.writes_of_write? write)
        ((code_of_finish finish).symm ▸ tells)

/-- The content of a report is delivered. -/
theorem compile_delivers (time : String) (settings : OutputSettings) (output : Option String)
    (compact : Bool) (compilation : Compilation) (tree : FileTree) (working : List String) :
    let report := report time settings.includesSchema compilation
    Delivers (if compact || settings.layout = .compact then report.compact else report.pretty)
      (compilation.hasErrors = true) tree working
      ((compile time settings output compact compilation).perform tree working) output := by
  intro report
  let content := if compact || settings.layout = .compact then report.compact else report.pretty
  let note (path : String) :=
    "✅ Wrote " ++ toString compilation.views.length ++ " view(s) to " ++ Text.quoted path
  let warning := "❌ " ++ toString compilation.diagnostics.errors.length ++ " error(s)\n"
  have program : compile time settings output compact compilation =
      if compilation.hasErrors then
        ⟨deliverySteps content note output ++ [warning].map .warn, .exit 1⟩
      else ⟨deliverySteps content note output ++ [].map .warn, .exit 0⟩ := by
    cases output <;> rfl
  rw [program]
  cases compilation.hasErrors with
  | true => exact delivers_of_steps content note [warning] (by simp) output tree working
  | false => exact delivers_of_steps content note [] (by simp) output tree working

variable {arguments : List String} {declarations file output : Option String} {compact : Bool}
  {surroundings : Surroundings} {settings : Settings} {model : Model}

/-- A run that is asked to compile the declarations of a directory delivers the content of the
report of their compilation. -/
theorem program_delivers
    (asks : Tool.compiler.invocation arguments =
      .ok (.compiler ⟨declarations, file, .compile output compact⟩))
    (configured : surroundings.settings file = .ok settings)
    (loads : Model.ofDirectory settings.declarations.rules
      (declarations.getD settings.declarations.path)
      (surroundings.at? (declarations.getD settings.declarations.path)) = .ok model)
    (time : String) (tree : FileTree) (working : List String) :
    let compilation := (Compilation.run settings.compiler model).withChecksum model.checksum
    let report := report time settings.output.includesSchema compilation
    Delivers
      (if compact || settings.output.layout = .compact then report.compact else report.pretty)
      (compilation.hasErrors = true) tree working
      ((Tool.compiler.program surroundings time arguments).perform tree working) output := by
  intro compilation
  have program : Tool.compiler.program surroundings time arguments =
      compile time settings.output output compact compilation := by
    simp only [Tool.program, asks, Invocation.program, Invocation.settingsFile, configured,
      Invocation.directory, loads]
    rfl
  rw [program]
  exact compile_delivers time settings.output output compact compilation tree working

/-- Both layouts of a document are read as it, also with a new line behind them. -/
theorem ofText_layouts (report : Json.Value) : ∀ text ∈ [report.compact, report.pretty],
    Json.Partial.ofText text = (report.tree, true) ∧
      Json.Partial.ofText (text ++ "\n") = (report.tree, true) := by
  have layouts : ∀ text ∈ [report.compact, report.pretty], report.IsLayout text := by
    simp only [List.forall_mem_cons]
    exact ⟨report.isLayout_compact, report.isLayout_pretty, List.forall_mem_nil _⟩
  exact fun text listed => ⟨(layouts text listed).ofText, (layouts text listed).line.ofText⟩

/-- Whatever the settings and the declarations of a directory are, a run that is asked to compile
them delivers a text of the report of their compilation with their checksum. Either layout is read
as this report, also with a new line behind it. The file that is asked for may be given by a path
from the root or from any working directory. This is the whole output where nothing is logged, as by
default; the lines of a log that a filter in the environment turns on are no part of a program. -/
theorem compile_delivers_report {arguments : List String} {declarations file output : Option String}
    {compact : Bool} {surroundings : Surroundings} {settings : Settings} {model : Model}
    (asks : Tool.compiler.invocation arguments =
      .ok (.compiler ⟨declarations, file, .compile output compact⟩))
    (configured : surroundings.settings file = .ok settings)
    (loads : Model.ofDirectory settings.declarations.rules
      (declarations.getD settings.declarations.path)
      (surroundings.at? (declarations.getD settings.declarations.path)) = .ok model)
    (time : String) (tree : FileTree) (working : List String) :
    let compilation := (Compilation.run settings.compiler model).withChecksum model.checksum
    let outcome := (Tool.compiler.program surroundings time arguments).perform tree working
    ∃ report, Reports compilation time settings.output.includesSchema report ∧
      (∀ text ∈ [report.compact, report.pretty],
        Json.Partial.ofText text = (report.tree, true) ∧
          Json.Partial.ofText (text ++ "\n") = (report.tree, true)) ∧
      Delivers
        (if compact || settings.output.layout = .compact then report.compact else report.pretty)
        (∃ item ∈ compilation.diagnostics.items, item.severity = .error) tree working outcome
        output := by
  intro compilation outcome
  let report := report time settings.output.includesSchema compilation
  refine ⟨report, report_reports time _ (Compilation.run_names_nodup settings.compiler model),
    ofText_layouts report, ?_⟩
  rw [← compilation.hasErrors_iff]
  exact program_delivers asks configured loads time tree working

/-- A document with a view of orders, which are not declared. -/
def shopDocument : Json.Value :=
  let view : Json.Value := .object [("name", .text "OrderList"),
    ("projection", .object [("source", .text "Order")])]
  .object [("types", .array [view])]

/-- The view of orders in the document of the shop. -/
def orderList : TypeDecl := { Model.named "OrderList" with projection := some ⟨"Order", []⟩ }

/-- A directory that holds one document without blanks is loaded as this document. -/
theorem loads_of_document (document : Json.Value) {types : List TypeDecl} {model : Model}
    (read : Document.format.readJson document.tree = .ok ⟨types⟩)
    (models : Model.ofDocument ⟨types⟩ document.compact = .ok model) :
    Model.ofDirectory .standard "declarations" (some (.directory
      [("shop.json", .file (Checksum.textBytes document.compact))])) = .ok model := by
  let file : SourceFile := ⟨"declarations/shop.json", .json, Checksum.textBytes document.compact⟩
  have files : LoadRules.standard.files "declarations"
      (some (.directory [("shop.json", .file file.content)])) = [file] := by
    have walk (name : String) (content : List UInt8) :
        FileTree.walk (.directory [(name, .file content)]) = [([name], content)] := by
      simp [FileTree.walk, FileTree.walkEach]
    change LoadRules.standard.sourceFiles _ (.directory [("shop.json", .file file.content)]) = _
    rw [LoadRules.sourceFiles, walk]
    rfl
  have decoded : Text.decoded? file.content = some document.compact :=
    Checksum.decoded?_textBytes _
  rw [Model.ofDirectory_eq_ok_iff_files, files, Model.gathers_singleton_iff decoded]
  refine ⟨⟨types⟩, ?_, models⟩
  rw [Document.ofText, Json.mapError_eq_ok_iff, Format.ofJsonText_eq_ok_iff,
    Json.Value.ofText_compact]
  exact ⟨read, rfl⟩

/-- A directory with the document of the shop, where there are no settings. -/
def shop : Surroundings where
  at? path :=
    if path = "declarations" then
      some (.directory [("shop.json", .file (Checksum.textBytes shopDocument.compact))])
    else none
  home := none
  environment := []

/-- The model of the document of the shop. -/
def shopModel : Model := ⟨[orderList], by decide, some (.ofContent shopDocument.compact)⟩

/-- The document of the shop is loaded. -/
theorem shop_loads :
    Model.ofDirectory .standard "declarations" (shop.at? "declarations") = .ok shopModel :=
  loads_of_document shopDocument rfl rfl

/-- The view of orders that are not declared is an error. -/
theorem shop_hasErrors (checksum : Option Checksum) :
    ∃ item ∈ ((Compilation.run .standard shopModel).withChecksum checksum).diagnostics.items,
      item.severity = .error := by
  let compiler := CompilerSettings.standard.viewCompiler shopModel
    (Compilation.run .standard shopModel).schema
  have unregistered : ¬compiler.registry.contains "Order" = true := by
    intro registered
    have reachable :=
      (discoverSchema_contains_iff .standard shopModel shopModel.sources "Order").mp registered
    obtain ⟨decl, found, -⟩ := reachable.isSchemaType.marked
    cases found
  have fails : compiler.failuresOf orderList ≠ [] := by
    rw [ViewCompiler.failuresOf_unregistered rfl (Bool.not_eq_true _ ▸ unregistered)]
    exact List.cons_ne_nil _ _
  have dropped : orderList ∈ compiler.dropped :=
    List.mem_filter.mpr ⟨List.mem_singleton_self _,
      by rw [ViewCompiler.compiles_eq_false_of_failures fails]; rfl⟩
  refine (Compilation.run .standard shopModel).hasErrors_iff.mp ?_
  exact (Compilation.run_hasErrors_iff .standard shopModel).mpr (.inl (List.ne_nil_of_mem dropped))

/-- The report of the shop is printed although it has errors, and the exit code tells of them. -/
theorem shop_delivers_report :
    (Tool.compiler.invocation ["compile"] = .ok (.compiler ⟨none, none, .compile none false⟩) ∧
      shop.settings none = .ok .standard ∧
      Model.ofDirectory .standard "declarations" (shop.at? "declarations") = .ok shopModel) ∧
    let compilation := (Compilation.run .standard shopModel).withChecksum shopModel.checksum
    let outcome :=
      (Tool.compiler.program shop "2024-05-01T10:00:00+00:00" ["compile"]).perform .empty
    ∃ report, Reports compilation "2024-05-01T10:00:00+00:00" true report ∧
      outcome.output = report.pretty ++ "\n" ∧
        Json.Partial.ofText outcome.output = (report.tree, true) ∧ outcome.code ≠ 0 := by
  have asks : Tool.compiler.invocation ["compile"] =
      .ok (.compiler ⟨none, none, .compile none false⟩) := rfl
  have configured : shop.settings none = .ok .standard := rfl
  refine ⟨⟨asks, configured, shop_loads⟩, ?_⟩
  obtain ⟨report, reports, layouts, delivers⟩ :=
    compile_delivers_report asks configured shop_loads "2024-05-01T10:00:00+00:00" .empty []
  cases delivers with
  | printed output files code =>
    have printed : Outcome.output _ = report.pretty ++ "\n" := output
    exact ⟨report, reports, printed, printed ▸ (layouts report.pretty (by simp)).2,
      code.mpr (shop_hasErrors _)⟩

end Command

end SchemaProjection
