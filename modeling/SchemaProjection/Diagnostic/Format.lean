import SchemaProjection.Diagnostic
import SchemaProjection.Format

/-!
# Formats of diagnostics

How diagnostics stand in a document. The context of a diagnostic is left out when it is empty.
-/
namespace SchemaProjection

/-- The format of a severity. -/
def Severity.format : Format Severity :=
  .choice ([.note, .warning, .error].map fun severity => (severity.name, severity)) Severity.name

/-- The format of a code. -/
def Code.format : Format Code := .choice (Code.all.map fun code => (code.name, code)) Code.name

/-- The format of a diagnostic. -/
def Diagnostic.format : Format Diagnostic :=
  .record "DiagnosticItem"
    (.required "element" .string <| .required "code" Code.format <| .required "message" .string <|
      .field "context" (.list .string) (some []) List.isEmpty .none)
    (fun (element, code, message, context, ()) => ⟨⟨code, message, context⟩, element⟩)
    (fun item => (item.element, item.code, item.message, item.context, ()))

/-- The format of diagnostics. -/
def Diagnostics.format : Format Diagnostics :=
  .record "Diagnostics" (.required "items" (.list Diagnostic.format) .none)
    (fun (items, ()) => ⟨items⟩)
    (fun diagnostics => (diagnostics.items, ()))

end SchemaProjection
