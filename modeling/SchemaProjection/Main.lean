import SchemaProjection.Command.Run
import Std.Time.Format

/-!
# The command line

The program is installed under the names of the tools and is the tool under whose name it is
started. It reads the files of settings and the environment, takes the program of the run from
the library, and performs it on the disk. The files of the declarations are listed on the
standard input, a path to a line, as the path of their directory begins them.
-/
namespace SchemaProjection.Command

/-- The file at a path, if it can be read. -/
def fileAt (path : String) : IO (Option FileTree) := do
  try
    return some (.file (← IO.FS.readBinFile path).toList)
  catch _ => return none

/-- The files that can be read among paths. -/
def filesAt (paths : List String) : IO (List (String × FileTree)) := do
  let found ← paths.mapM fun path => do return (← fileAt path).map (path, ·)
  return found.filterMap id

/-- The directory at a path, with those of its files that the input lists. -/
def directoryAt (path : String) : IO (List (String × FileTree)) := do
  let lead := if path.toList.getLast? = some '/' then path else path ++ "/"
  let lines := (← (← IO.getStdin).lines).toList.filter (Text.begins lead)
  if lines.isEmpty then return []
  let tree ← lines.foldlM (fun tree (line : String) => do
    let content := (← IO.FS.readBinFile line).toList
    let names := FileTree.parts (String.ofList (line.toList.drop lead.length))
    return .put (.file content) names tree) .empty
  return [(path, tree)]

/-- The variables of an environment that is written as names and values, each ended by a zero. -/
def assignments (text : String) : List (String × String) :=
  (Text.pieces (· == '\x00') text.toList).map fun entry =>
    (String.ofList (entry.takeWhile (· != '=')),
      String.ofList ((entry.dropWhile (· != '=')).drop 1))

/-- The variables of the environment. -/
def environment : IO (List (String × String)) := do
  match ← fileAt "/proc/self/environ" with
  | some (.file content) => return ((Text.decoded? content).map assignments).getD []
  | _ => return []

/-- The directory of the user's own settings. -/
def userHome (environment : List (String × String)) : Option String :=
  ((environment.lookup "XDG_CONFIG_HOME").filter (Text.begins "/")).or
    (((environment.lookup "HOME").filter (· != "")).map fun home => pathBelow home ".config")

/-- The present time, in the coordinated time zone. -/
def presentTime : IO String := do
  let now := Std.Time.DateTime.ofTimestampWithZone (← Std.Time.Timestamp.now) .UTC
  return now.toPlainDateTime.format "uuuu-MM-dd'T'HH:mm:ss.SSSSSSSSS" ++ "+00:00"

/-- The surroundings of an invocation, with all files that its run reads. -/
def surroundingsOf (invocation : Invocation) : IO Surroundings := do
  let environment ← environment
  let home := userHome environment
  let files ← filesAt (Surroundings.settingsPaths home invocation.settingsFile)
  let surroundings : Surroundings := ⟨(List.lookup · files), home, environment⟩
  match surroundings.settings invocation.settingsFile with
  | .error _ => return surroundings
  | .ok settings =>
    let directory := invocation.directory settings
    let found ← filesAt [directory]
    let found ← if found.isEmpty then directoryAt directory else pure found
    return { surroundings with at? := (List.lookup · (files ++ found)) }

/-- Perform steps on the disk and end. -/
def performAll (finish : Finish) : List Step → IO UInt32
  | [] =>
    match finish with
    | .exit code => return code.toUInt32
    | .fail fault => do
      IO.eprint fault.line
      return 1
  | .print text :: rest => do
    IO.print text
    performAll finish rest
  | .warn text :: rest => do
    IO.eprint text
    performAll finish rest
  | .write path content :: rest => do
    match ← (IO.FS.writeFile path content).toBaseIO with
    | .ok () => performAll finish rest
    | .error _ => do
      IO.eprint (Fault.unwritable path).line
      return 1

/-- Run a tool. -/
def Tool.run (tool : Tool) (arguments : List String) : IO UInt32 := do
  let program ← match tool.invocation arguments with
    | .error stop => pure stop.program
    | .ok invocation => pure (invocation.program (← surroundingsOf invocation) (← presentTime))
  performAll program.finish program.steps

end SchemaProjection.Command

open SchemaProjection SchemaProjection.Command

/-- Run the tool under whose name the program is started. -/
def main (arguments : List String) : IO UInt32 := do
  let name := (FileTree.parts (toString (← IO.appPath))).getLast?.getD ""
  match Tool.ofName? name with
  | some tool => tool.run arguments
  | none =>
    IO.eprintln ("there is no tool of the name " ++ name)
    return 2
