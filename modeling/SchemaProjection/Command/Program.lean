import SchemaProjection.Settings.Layer

/-!
# Programs

What a tool does, as data: texts that it prints, a file that it writes, and how it ends. A file
that cannot be written ends the run. The same program can be performed on a tree of files or on
a disk.

A line of a log is no step. The tools log on their output what a filter in the environment asks
for, which is nothing by default.
-/
namespace SchemaProjection.Command

/-- Why a run fails. -/
inductive Fault where
  /-- There are no settings. -/
  | settings (fault : SettingsFault)
  /-- The declarations cannot be loaded. -/
  | load (fault : LoadFault)
  /-- A file cannot be written. -/
  | unwritable (path : String)
  /-- Another tool is needed and cannot be started. -/
  | needs (tool : String)
deriving Repr, DecidableEq

/-- The message of a fault. -/
def Fault.message : Fault → String
  | .settings fault => fault.message
  | .load fault => fault.message
  | .unwritable path => s!"cannot write {path}"
  | .needs tool => s!"cannot start {tool}"

/-- A step of a program. -/
inductive Step where
  /-- Print a text. -/
  | print (text : String)
  /-- Print a text where errors go. -/
  | warn (text : String)
  /-- Write a file. -/
  | write (path content : String)
deriving Repr, DecidableEq

/-- How a program ends. -/
inductive Finish where
  /-- With an exit code. -/
  | exit (code : Nat)
  /-- With a fault. -/
  | fail (fault : Fault)
deriving Repr, DecidableEq

/-- Steps in order, and how the program ends after them. -/
structure Program where
  /-- The steps. -/
  steps : List Step
  /-- The end. -/
  finish : Finish
deriving Repr, DecidableEq

/-- The line in which a fault is told. -/
def Fault.line (fault : Fault) : String := "❌ Error: " ++ fault.message ++ "\n"

/-- What a program did to a tree of files. -/
structure Outcome where
  /-- The tree after it. -/
  tree : FileTree
  /-- What was printed. -/
  output : String
  /-- What was printed where errors go, without the line of a fault. -/
  warnings : String
  /-- How the program ended. -/
  finish : Finish

namespace Outcome

/-- The exit code. -/
def code (outcome : Outcome) : Nat :=
  match outcome.finish with
  | .exit code => code
  | .fail _ => 1

end Outcome

/-- Perform steps on a tree of files in a working directory, up to a file that cannot be written. -/
def performFrom (working : List String) (outcome : Outcome) : List Step → Outcome
  | [] => outcome
  | .print text :: rest =>
    performFrom working { outcome with output := outcome.output ++ text } rest
  | .warn text :: rest =>
    performFrom working { outcome with warnings := outcome.warnings ++ text } rest
  | .write path content :: rest =>
    match outcome.tree.write? path (Checksum.textBytes content) working with
    | some tree => performFrom working { outcome with tree } rest
    | none => { outcome with finish := .fail (.unwritable path) }

/-- Perform a program on a tree of files in a working directory. -/
def Program.perform (program : Program) (tree : FileTree) (working : List String := []) : Outcome :=
  performFrom working ⟨tree, "", "", program.finish⟩ program.steps

end SchemaProjection.Command
