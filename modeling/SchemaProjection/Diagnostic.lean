import SchemaProjection.Text.Segment

/-!
# Diagnostics

What is found while a schema is discovered and while views are compiled is said in
diagnostics, each about the declaration it concerns. A diagnostic has a code, and the code alone
tells how severe it is. Diagnostics keep the order in which they were reported, and none stops
the work; only the presence of an error is told at the end. A note is a diagnostic that is neither
an error nor a warning, as the one on a view that is left out.
-/
namespace SchemaProjection

/-- `Severity` — how severe a diagnostic is. -/
inductive Severity where
  /-- A remark on what was done. -/
  | note
  /-- The result stands, but a declaration looks wrong. -/
  | warning
  /-- Something declared has no meaning. -/
  | error
deriving Repr, DecidableEq

/-- The name of a severity. -/
def Severity.name : Severity → String
  | .note => "note"
  | .warning => "warning"
  | .error => "error"

/-- `DiagnosticCode` — what a diagnostic is about. -/
inductive Code where
  /-- An entity without an identifier. -/
  | missingIdentifier
  /-- An entity with several identifiers that do not form a composite. -/
  | duplicateIdentifier
  /-- An embedded field of a type that is no value object. -/
  | notAValueObject
  /-- A type without fields in the registry. -/
  | unresolvedType
  /-- A segment of a path that names no field. -/
  | unknownField
  /-- A scalar before the end of a path. -/
  | notNavigable
  /-- A computed field without dependencies. -/
  | noDependencies
  /-- Reducers that are not as many as the dependencies with many values. -/
  | reducerCount
  /-- A field that is computed and copied from a path. -/
  | computedAndMapped
  /-- A view left out of the result. -/
  | viewDropped
  /-- A computed field without a method. -/
  | noMatchingMethod
  /-- A method of the right name with another result. -/
  | returnType
  /-- A method of the right name with another number of parameters. -/
  | parameterCount
  /-- A method of the right name with another parameter. -/
  | parameterType
deriving Repr, DecidableEq

namespace Code

/-- All codes: those of the schema, of paths, of views, and of methods. -/
def all : List Code :=
  [.missingIdentifier, .duplicateIdentifier, .notAValueObject, .unresolvedType, .unknownField,
   .notNavigable, .noDependencies, .reducerCount, .computedAndMapped, .viewDropped,
   .noMatchingMethod, .returnType, .parameterCount, .parameterType]

/-- The name of a code in documents. -/
def name : Code → String
  | .missingIdentifier => "MissingIdentifier"
  | .duplicateIdentifier => "DuplicateIdentifierWithoutComposite"
  | .notAValueObject => "NotAValueObject"
  | .unresolvedType => "UnresolvedRootType"
  | .unknownField => "UnknownField"
  | .notNavigable => "NonNavigableSegment"
  | .noDependencies => "EmptyDependencyList"
  | .reducerCount => "ReducerCountMismatch"
  | .computedAndMapped => "ComputedAndMapped"
  | .viewDropped => "ViewDropped"
  | .noMatchingMethod => "NoMatchingMethod"
  | .returnType => "ReturnTypeMismatch"
  | .parameterCount => "ParameterCountMismatch"
  | .parameterType => "ParameterTypeMismatch"

/-- `DiagnosticCode::as_str` — the short form of a code in messages. -/
def label : Code → String
  | .missingIdentifier => "W001"
  | .duplicateIdentifier => "W002"
  | .notAValueObject => "E001"
  | .unresolvedType => "E002"
  | .unknownField => "E003"
  | .notNavigable => "E004"
  | .noDependencies => "E005"
  | .reducerCount => "E006"
  | .computedAndMapped => "E007"
  | .noMatchingMethod => "E008"
  | .returnType => "E009"
  | .parameterCount => "E010"
  | .parameterType => "E011"
  | .viewDropped => "N001"

/-- `DiagnosticCode::severity` — how severe the diagnostics of a code are. -/
def severity : Code → Severity
  | .missingIdentifier | .duplicateIdentifier => .warning
  | .viewDropped => .note
  | .notAValueObject | .unresolvedType | .unknownField | .notNavigable | .noDependencies
  | .reducerCount | .computedAndMapped | .noMatchingMethod | .returnType | .parameterCount
  | .parameterType => .error

end Code

/-- `Reportable` — what is said in a diagnostic, apart from the declaration it concerns. -/
structure Remark where
  /-- What it is about. -/
  code : Code
  /-- One sentence. -/
  message : String
  /-- What else may help. -/
  context : List String
deriving Repr, DecidableEq

/-- `DiagnosticItem` — a remark on a declaration. -/
structure Diagnostic extends Remark where
  /-- The declaration, as the name of a type or the names of a type and its field. -/
  element : String
deriving Repr, DecidableEq

namespace Diagnostic

/-- `Diagnostics::report` — a remark made on a declaration. -/
def about (element : String) (remark : Remark) : Diagnostic := ⟨remark, element⟩

/-- How severe a diagnostic is. -/
def severity (diagnostic : Diagnostic) : Severity := diagnostic.code.severity

/-- A diagnostic on a line, with its context on further lines. -/
def text (diagnostic : Diagnostic) : String :=
  "[" ++ diagnostic.code.label ++ "] " ++ diagnostic.severity.name ++ ": " ++
    diagnostic.message ++ " (" ++ diagnostic.element ++ ")" ++
    String.join (diagnostic.context.map ("\n  - " ++ ·))

end Diagnostic

/-- `Diagnostics` — the diagnostics of one compilation in the order in which they were reported. -/
structure Diagnostics where
  /-- The diagnostics in order. -/
  items : List Diagnostic
deriving Repr, DecidableEq

namespace Diagnostics

/-- No diagnostics. -/
def empty : Diagnostics := ⟨[]⟩

instance : Inhabited Diagnostics := ⟨empty⟩

/-- `Diagnostics::push` — report one more diagnostic. -/
def push (diagnostics : Diagnostics) (item : Diagnostic) : Diagnostics :=
  ⟨diagnostics.items ++ [item]⟩

/-- Report diagnostics after those that are there. -/
def append (diagnostics : Diagnostics) (items : List Diagnostic) : Diagnostics :=
  ⟨diagnostics.items ++ items⟩

/-- The diagnostics of a severity. -/
def ofSeverity (diagnostics : Diagnostics) (severity : Severity) : List Diagnostic :=
  diagnostics.items.filter (·.severity == severity)

/-- `Diagnostics::with_code` — the diagnostics of a code. -/
def ofCode (diagnostics : Diagnostics) (code : Code) : List Diagnostic :=
  diagnostics.items.filter (·.code == code)

/-- `Diagnostics::errors` — the diagnostics that are errors. -/
def errors (diagnostics : Diagnostics) : List Diagnostic := diagnostics.ofSeverity .error

/-- `Diagnostics::warnings` — the diagnostics that are warnings. -/
def warnings (diagnostics : Diagnostics) : List Diagnostic := diagnostics.ofSeverity .warning

/-- `Diagnostics::has_errors` — whether something declared has no meaning. -/
def hasErrors (diagnostics : Diagnostics) : Bool := !diagnostics.errors.isEmpty

/-- The line that counts errors and warnings; nothing is counted where nothing was reported. -/
def summary (diagnostics : Diagnostics) : String :=
  let errors := diagnostics.errors.length
  let warnings := diagnostics.warnings.length
  if diagnostics.hasErrors then s!"\n{errors} error(s), {warnings} warning(s)\n"
  else if diagnostics.items.isEmpty then ""
  else s!"\n{warnings} warning(s)\n"

/-- `Diagnostics::format_all` — all diagnostics and the line that counts them. -/
def text (diagnostics : Diagnostics) : String :=
  String.join (diagnostics.items.map (·.text ++ "\n")) ++ diagnostics.summary

end Diagnostics

end SchemaProjection
