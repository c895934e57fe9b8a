import SchemaProjection.Command.Options

/-!
# Invocations

What the two tools are asked to do: the compiler checks or compiles the views of a directory,
resolves a path or lists the schema types; the exporter draws the schema graph.
-/
namespace SchemaProjection.Command

/-- `Commands` — what the compiler is asked to do. -/
inductive CompilerTask where
  /-- Report all diagnostics; warnings count as errors if the task is strict. -/
  | check (strict : Bool)
  /-- Write the result to a file or to the output. -/
  | compile (output : Option String) (compact : Bool)
  /-- Resolve a path from a root type. -/
  | resolve (root path : String)
  /-- List the schema types. -/
  | types
deriving Repr, DecidableEq

/-- `Cli` — an invocation of the compiler. -/
structure CompilerInvocation where
  /-- The directory of the declarations, in place of the one in the settings. -/
  declarations : Option String
  /-- A file of settings. -/
  settings : Option String
  /-- The task. -/
  task : CompilerTask
deriving Repr, DecidableEq

/-- `Cli` — an invocation of the exporter. -/
structure ExportInvocation where
  /-- The directory of the declarations, in place of the one in the settings. -/
  declarations : Option String
  /-- The file that is written. -/
  output : Option String
  /-- What is written to it. -/
  format : String
  /-- Whether reference cycles are listed. -/
  listsCycles : Bool
deriving Repr, DecidableEq

/-- An option with a path as its value. -/
def pathOption (letter : Char) (name value help : String) : OptionSpec :=
  ⟨some letter, name, some ⟨value, false⟩, help⟩

/-- An option with a text as its value. -/
def textOption (letter : Char) (name value help : String) : OptionSpec :=
  ⟨some letter, name, some ⟨value, true⟩, help⟩

/-- An option without a value. -/
def flag (name help : String) : OptionSpec := ⟨none, name, none, help⟩

/-- The name of the compiler. -/
def compilerName : String := "projection-compiler"

/-- The name of the exporter. -/
def exporterName : String := "schema-graph-export"

/-- The command of a task of the compiler. -/
def taskSpec (name about : String) (options : List OptionSpec)
    (arguments : List (String × String)) : CommandSpec :=
  { name := compilerName ++ " " ++ name, about, options, arguments, commands := [] }

/-- The command that checks. -/
def checkSpec : CommandSpec :=
  taskSpec "check" "Compile all views and report diagnostics"
    [flag "strict" "Treat warnings as errors"] []

/-- The command that compiles. -/
def compileSpec : CommandSpec :=
  taskSpec "compile" "Compile all views and write the metadata as JSON"
    [pathOption 'o' "output" "OUTPUT" "Output file (defaults to stdout)",
     flag "compact" "Write compact JSON"] []

/-- The command that resolves a path. -/
def resolveSpec : CommandSpec :=
  taskSpec "resolve" "Resolve a dotted path from a root type" []
    [("<ROOT>", "Root schema type"), ("<PATH>", "Dotted path, e.g. address.city")]

/-- The command that lists the schema types. -/
def typesSpec : CommandSpec :=
  taskSpec "types" "List the schema types reachable from declared views" [] []

/-- The command that shows help. -/
def helpSpec : CommandSpec :=
  { taskSpec "help" "Print this message or the help of the given subcommand(s)" []
      [("[COMMAND]...", "Print help for the subcommand(s)")] with answersHelp := false }

/-- The commands of the compiler by their names. -/
def taskSpecs : List (String × CommandSpec) :=
  [("check", checkSpec), ("compile", compileSpec), ("resolve", resolveSpec),
   ("types", typesSpec), ("help", helpSpec)]

/-- The compiler. -/
def compilerSpec : CommandSpec where
  name := compilerName
  about := "Validate views against the domain schema and compile projection metadata"
  options :=
    [pathOption 'd' "declarations" "DECLARATIONS"
      "Path to the declarations directory (overrides config)",
     textOption 'c' "config" "CONFIG" "Explicit config file"]
  arguments := []
  commands := taskSpecs.map fun (name, spec) => (name, spec.about)

/-- The exporter. -/
def exporterSpec : CommandSpec where
  name := exporterName
  about := "Export the extracted schema graph to DOT/SVG format"
  options :=
    [pathOption 'd' "declarations" "DECLARATIONS"
      "Path to the declarations directory (defaults to config)",
     pathOption 'o' "output" "OUTPUT" "Output file (defaults to schema.dot)",
     textOption 'f' "format" "FORMAT" "Output format: dot or svg [default: dot]",
     flag "cycles" "Print reference cycles between schema types"]
  arguments := []
  commands := []

/-- The command whose help is asked for by name. -/
def helpFor : List String → Stop
  | [] => .help compilerSpec
  | [name] =>
    match taskSpecs.lookup name with
    | some spec => .help spec
    | none => .misuse compilerSpec
  | _ => .misuse compilerSpec

/-- The task that a command names. -/
def compilerTask (name : String) (arguments : List String) : Except Stop CompilerTask := do
  match name with
  | "check" => do
    let given ← checkSpec.takeAll arguments
    .ok (.check (given.has "strict"))
  | "compile" => do
    let given ← compileSpec.takeAll arguments
    .ok (.compile (given.value? "output") (given.has "compact"))
  | "resolve" => do
    let given ← resolveSpec.takeAll arguments
    match given.others with
    | [root, path] => .ok (.resolve root path)
    | _ => .error (.misuse resolveSpec)
  | "types" => do
    let _ ← typesSpec.takeAll arguments
    .ok .types
  | "help" => .error (helpFor arguments)
  | _ => .error (.misuse compilerSpec)

/-- The invocation of the compiler with arguments. -/
def CompilerInvocation.ofArguments (arguments : List String) :
    Except Stop CompilerInvocation := do
  match ← compilerSpec.take .none arguments with
  | (given, name :: rest) =>
    let task ← compilerTask name rest
    .ok ⟨given.value? "declarations", given.value? "config", task⟩
  | (_, []) => .error (.misuse compilerSpec)

/-- The invocation of the exporter with arguments. -/
def ExportInvocation.ofArguments (arguments : List String) : Except Stop ExportInvocation := do
  let given ← exporterSpec.takeAll arguments
  .ok ⟨given.value? "declarations", given.value? "output", (given.value? "format").getD "dot",
    given.has "cycles"⟩

end SchemaProjection.Command
