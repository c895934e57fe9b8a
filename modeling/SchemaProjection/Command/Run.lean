import SchemaProjection.Command.Invocation
import SchemaProjection.Command.Program
import SchemaProjection.Schema.Graph.Dot
import SchemaProjection.Text.Quoted

/-!
# Runs of the tools

From an invocation and its surroundings to the program that is to be performed. Settings are
read first and declarations second; a fault of either is all there is to tell. What was compiled
is written also when there are errors, and the exit code tells whether there are.
-/
namespace SchemaProjection.Command

/-- A tool. -/
inductive Tool where
  /-- Compiles views. -/
  | compiler
  /-- Exports the schema graph. -/
  | exporter
deriving Repr, DecidableEq

/-- The tool of a name. -/
def Tool.ofName? (name : String) : Option Tool :=
  if name = compilerName then some .compiler
  else if name = exporterName then some .exporter
  else none

/-- A line that is printed. -/
def say (line : String) : Step := .print (line ++ "\n")

/-- The sign of a severity. -/
def icon : Severity → String
  | .error => "❌"
  | .warning => "⚠️ "
  | .note => "ℹ️ "

/-- A line of `print_diagnostics` — a diagnostic with the sign of its severity. -/
def diagnosticStep (item : Diagnostic) : Step := say (icon item.severity ++ " " ++ item.text)

/-- `Commands::Check` — report the diagnostics of a compilation. -/
def check (strict : Bool) (directory : String) (model : Model) (compilation : Compilation) :
    Program :=
  let diagnostics := compilation.diagnostics
  let errors := diagnostics.errors.length
  let warnings := diagnostics.warnings.length
  let views := compilation.views.length
  let types := compilation.schema.size
  let declared := model.types.length
  let shown := Text.quoted directory
  let opening := [say s!"🔍 Checking {declared} declared types in {shown}\n"] ++
    diagnostics.items.map diagnosticStep ++ [say ""]
  if diagnostics.hasErrors || (strict && warnings > 0) then
    ⟨opening ++ [say s!"❌ {errors} error(s), {warnings} warning(s); {views} view(s) compiled"],
      .exit 1⟩
  else
    ⟨opening ++
      [say s!"✅ {views} view(s) compiled over {types} schema type(s), {warnings} warning(s)"],
      .exit 0⟩

/-- The report that `Commands::Compile` makes of a compilation: its members in the order of their
names, with the time at which it was made, and without the schema if that is not wanted. -/
def report (time : String) (includesSchema : Bool) (compilation : Compilation) : Json.Value :=
  let members := match compilation.json with
    | .object members => members
    | _ => []
  let members := ("generated_at", .text time) :: members
  Json.Value.sorted (.object
    (if includesSchema then members else members.filter fun member => member.1 != "schema"))

/-- `Commands::Compile` — write the report of a compilation. -/
def compile (time : String) (settings : OutputSettings) (output : Option String) (compact : Bool)
    (compilation : Compilation) : Program :=
  let report := report time settings.includesSchema compilation
  let content :=
    if compact || settings.layout = .compact then report.compact else report.pretty
  let written := match output with
    | some path =>
      let views := compilation.views.length
      let shown := Text.quoted path
      [.write path content, say s!"✅ Wrote {views} view(s) to {shown}"]
    | none => [say content]
  if compilation.hasErrors then
    let errors := compilation.diagnostics.errors.length
    ⟨written ++ [.warn s!"❌ {errors} error(s)\n"], .exit 1⟩
  else ⟨written, .exit 0⟩

/-- The word for a container. -/
def containerWord : Container → String
  | .list => "List"
  | .set => "Set"
  | .map => "Map"
  | .collection => "Collection"
  | .unknown => "Unknown"

/-- The word for a kind. -/
def kindWord : Kind → String
  | .scalar => "Scalar"
  | .entityLike => "EntityLike"
  | .embeddableLike => "EmbeddableLike"
  | .unknown => "Unknown"

/-- Tell what a path from a root leads to. -/
def resolution (root path : String) : Except PathFault Field → Program
  | .ok field =>
    let collection := match field.collection with
      | some collection =>
        let container := containerWord collection.container
        let kind := kindWord collection.kind
        [say s!"   collection: {container} of {kind}"]
      | none => []
    ⟨[say s!"✅ {root}.{path} -> {field.relatedType}",
      say s!"   declared as {field.declaredType}"] ++ collection, .exit 0⟩
  | .error fault => ⟨[say s!"❌ {fault.message}"], .exit 1⟩

/-- `Commands::Resolve` — resolve a path in the schema of its root. -/
def resolve (settings : CompilerSettings) (model : Model) (root path : String) : Program :=
  let (registry, _) := discoverSchema settings model [root]
  resolution root path ((settings.viewCompiler model registry).resolve root path)

/-- `Commands::Types` — list the schema types of a compilation with their fields. -/
def types (compilation : Compilation) : Program :=
  let fieldStep (entry : String × Field) : Step :=
    let mark := if entry.2.isIdentifier then " [id]" else ""
    say s!"   └─ {entry.1}: {entry.2.declaredType}{mark}"
  ⟨compilation.schema.types.flatMap fun (role, name, fields) =>
    say s!"{name} ({role.name}, {fields.size} fields)" :: fields.entries.map fieldStep, .exit 0⟩

/-- `run` of the compiler, once the declarations are loaded — the program of a task. -/
def taskProgram (settings : Settings) (time directory : String) (model : Model) :
    CompilerTask → Program
  | .check strict =>
    check strict directory model (Compilation.run settings.compiler model)
  | .compile output compact =>
    compile time settings.output output compact
      ((Compilation.run settings.compiler model).withChecksum model.checksum)
  | .resolve root path => resolve settings.compiler model root path
  | .types => types (Compilation.run settings.compiler model)

/-- The lines that list cycles. -/
def cycleSteps (cycles : List (List String)) : List Step :=
  if cycles.isEmpty then [say "✅ No reference cycles"]
  else
    let count := cycles.length
    say s!"🔁 {count} reference cycle(s):" ::
      cycles.map fun cycle => say ("   └─ " ++ Text.joined " ↔ " cycle)

/-- A path with another extension. -/
def withExtension (extension path : String) : String :=
  match (FileTree.parts path).getLast?.bind extension? with
  | some old => String.ofList (path.toList.take (path.length - old.length)) ++ extension
  | none => path ++ "." ++ extension

/-- Write a graph. A drawing is made by another tool from the text beside it. -/
def exportSteps (format : String) (output : Option String) (dot : String) : Program :=
  match format with
  | "dot" =>
    let path := output.getD "schema.dot"
    let shown := Text.quoted path
    ⟨[.write path dot, say s!"✅ Exported DOT to: {shown}"], .exit 0⟩
  | "svg" =>
    ⟨[.write (withExtension "temp.dot" (output.getD "schema.svg")) dot], .fail (.needs "dot")⟩
  | _ => ⟨[.warn "❌ Invalid format. Use 'dot' or 'svg'\n"], .exit 1⟩

/-- `run` of the exporter, once the declarations are loaded — the program that exports their
graph. -/
def exportGraph (invocation : ExportInvocation) (settings : CompilerSettings) (model : Model) :
    Program :=
  let graph := SchemaGraph.ofRegistry (Compilation.run settings model).schema
  let types := graph.nodes.length
  let edges := graph.edges.length
  let cycles := if invocation.listsCycles then cycleSteps graph.cycles else []
  let last := exportSteps invocation.format invocation.output graph.dot
  ⟨say s!"Graph built: {types} schema types, {edges} edges" :: cycles ++ last.steps, last.finish⟩

/-- What is printed in place of a run. -/
def Stop.program : Stop → Program
  | .help command => ⟨[.print command.helpText], .exit 0⟩
  | .misuse command =>
    ⟨[.warn ("error: the arguments are not understood\n\n" ++ command.usage ++
      "\nFor more information, try '--help'.\n")], .exit 2⟩

/-- An invocation of one of the tools. -/
inductive Invocation where
  /-- Of the compiler. -/
  | compiler (invocation : CompilerInvocation)
  /-- Of the exporter. -/
  | exporter (invocation : ExportInvocation)
deriving Repr, DecidableEq

/-- The invocation of a tool with arguments. -/
def Tool.invocation (tool : Tool) (arguments : List String) : Except Stop Invocation :=
  match tool with
  | .compiler => (CompilerInvocation.ofArguments arguments).map .compiler
  | .exporter => (ExportInvocation.ofArguments arguments).map .exporter

namespace Invocation

/-- The file of settings that is asked for. -/
def settingsFile : Invocation → Option String
  | .compiler invocation => invocation.settings
  | .exporter _ => none

/-- The directory of the declarations: the one that is asked for, or the one in the settings. -/
def directory (settings : Settings) : Invocation → String
  | .compiler invocation => invocation.declarations.getD settings.declarations.path
  | .exporter invocation => invocation.declarations.getD settings.declarations.path

/-- What is printed before the declarations are loaded. -/
def opening (directory : String) : Invocation → List Step
  | .compiler _ => []
  | .exporter _ => [say ("Loading declarations from: " ++ Text.quoted directory)]

/-- What is done with the declarations of a directory. -/
def task (settings : Settings) (time directory : String) (model : Model) : Invocation → Program
  | .compiler invocation => taskProgram settings time directory model invocation.task
  | .exporter invocation => exportGraph invocation settings.compiler model

/-- `run` — the program of an invocation: it loads the settings, then the declarations, and then
does what is asked for. -/
def program (invocation : Invocation) (surroundings : Surroundings) (time : String) : Program :=
  match surroundings.settings invocation.settingsFile with
  | .error fault => ⟨[], .fail (.settings fault)⟩
  | .ok settings =>
    let directory := invocation.directory settings
    let opening := invocation.opening directory
    match Model.ofDirectory settings.declarations.rules directory (surroundings.at? directory) with
    | .error fault => ⟨opening, .fail (.load fault)⟩
    | .ok model =>
      let task := invocation.task settings time directory model
      ⟨opening ++ task.steps, task.finish⟩

end Invocation

/-- `main` — the program of a tool with arguments. What the tool logs on its output is left out of
it: nothing by default, and the lines that a filter in the environment asks for. -/
def Tool.program (tool : Tool) (surroundings : Surroundings) (time : String)
    (arguments : List String) : Program :=
  match tool.invocation arguments with
  | .ok invocation => invocation.program surroundings time
  | .error stop => stop.program

end SchemaProjection.Command
