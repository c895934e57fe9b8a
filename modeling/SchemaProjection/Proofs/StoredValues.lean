import SchemaProjection.Checksum
import SchemaProjection.Diagnostic.Format
import SchemaProjection.Method.Format
import SchemaProjection.Proofs.Lossless
import SchemaProjection.Proofs.TypeText
import SchemaProjection.Schema.Graph
import SchemaProjection.Settings

/-!
# Stored values

Declarations, schemas, signatures, diagnostics, checksums and settings are all stored by lossless
formats: their fields have distinct names, and a field that is left out when it is written has the
value that is assumed when it is missing. A type expression stands as its canonical form, which is
understood as the same expression. So every value that was read from a text is read back from the
text that is written of it (`stored_read_back`).
-/
namespace SchemaProjection

open Format (lossless_text lossless_bool lossless_phrase lossless_choice lossless_record)

/-- Texts are lossless. -/
theorem string_lossless : Format.string.Lossless := lossless_text _

/-- Type expressions are lossless: the canonical form of one is understood as the expression. -/
theorem TypeExpr.format_lossless : TypeExpr.format.Lossless :=
  lossless_phrase fun text type understood => by
    rw [Json.mapError_eq_ok_iff] at understood ⊢
    exact TypeExpr.parse_text_of_parse understood

/-- Sorts of types are lossless. -/
theorem DeclKind.format_lossless : DeclKind.format.Lossless := lossless_choice (by decide)

/-- Cardinalities are lossless. -/
theorem Cardinality.format_lossless : Cardinality.format.Lossless := lossless_choice (by decide)

/-- Relationship markers are lossless. -/
theorem Relation.format_lossless : Relation.format.Lossless :=
  lossless_record
    (.required (by decide) Cardinality.format_lossless <|
      .maybe (by decide) string_lossless nofun <| .maybe (by decide) string_lossless nofun .none)
    fun _ => rfl

/-- Providers are lossless. -/
theorem Provider.format_lossless : Provider.format.Lossless :=
  lossless_record
    (.required (by decide) string_lossless <| .maybe (by decide) string_lossless nofun .none)
    fun _ => rfl

/-- What a view projects is lossless. -/
theorem Projection.format_lossless : Projection.format.Lossless :=
  lossless_record
    (.required (by decide) string_lossless <|
      .defaulted (by decide) Provider.format_lossless.list rfl .none)
    fun _ => rfl

/-- Computations are lossless. -/
theorem Computation.format_lossless : Computation.format.Lossless :=
  lossless_record
    (.defaulted (by decide) string_lossless.list rfl <|
      .defaulted (by decide) string_lossless.list rfl .none)
    fun _ => rfl

/-- Named methods are lossless. -/
theorem MethodReference.format_lossless : MethodReference.format.Lossless :=
  lossless_record
    (.maybe (by decide) string_lossless nofun <| .required (by decide) string_lossless .none)
    fun _ => rfl

/-- Declared fields are lossless. -/
theorem FieldDecl.format_lossless : FieldDecl.format.Lossless :=
  lossless_record
    (.required (by decide) string_lossless <| .required (by decide) TypeExpr.format_lossless <|
      .defaulted (by decide) lossless_bool rfl <| .defaulted (by decide) lossless_bool rfl <|
      .defaulted (by decide) lossless_bool rfl <| .defaulted (by decide) lossless_bool rfl <|
      .defaulted (by decide) lossless_bool rfl <|
      .maybe (by decide) Relation.format_lossless nofun <|
      .maybe (by decide) string_lossless nofun <| .maybe (by decide) string_lossless nofun <|
      .maybe (by decide) string_lossless nofun <|
      .maybe (by decide) Computation.format_lossless nofun <|
      .maybe (by decide) MethodReference.format_lossless nofun <|
      .defaulted (by decide) lossless_bool rfl .none)
    fun _ => rfl

/-- Parameters are lossless. -/
theorem ParamDecl.format_lossless : ParamDecl.format.Lossless :=
  lossless_record
    (.required (by decide) string_lossless <|
      .required (by decide) TypeExpr.format_lossless .none)
    fun _ => rfl

/-- Declared methods are lossless. -/
theorem MethodDecl.format_lossless : MethodDecl.format.Lossless :=
  lossless_record
    (.required (by decide) string_lossless <| .required (by decide) TypeExpr.format_lossless <|
      .defaulted (by decide) ParamDecl.format_lossless.list rfl <|
      .defaulted (by decide) lossless_bool rfl .none)
    fun _ => rfl

/-- Declared types are lossless. -/
theorem TypeDecl.format_lossless : TypeDecl.format.Lossless :=
  lossless_record
    (.required (by decide) string_lossless <|
      .defaulted (by decide) DeclKind.format_lossless rfl <|
      .maybe (by decide) string_lossless nofun <| .defaulted (by decide) lossless_bool rfl <|
      .defaulted (by decide) lossless_bool rfl <| .maybe (by decide) string_lossless nofun <|
      .maybe (by decide) Projection.format_lossless nofun <|
      .defaulted (by decide) FieldDecl.format_lossless.list rfl <|
      .defaulted (by decide) MethodDecl.format_lossless.list rfl .none)
    fun _ => rfl

/-- Documents are lossless. -/
theorem Document.format_lossless : Document.format.Lossless :=
  lossless_record (.defaulted (by decide) TypeDecl.format_lossless.list rfl .none) fun _ => rfl

/-- Kinds are lossless. -/
theorem Kind.format_lossless : Kind.format.Lossless := lossless_choice (by decide)

/-- Containers are lossless. -/
theorem Container.format_lossless : Container.format.Lossless := lossless_choice (by decide)

/-- Collections are lossless. -/
theorem Collection.format_lossless : Collection.format.Lossless :=
  lossless_record
    (.required (by decide) Kind.format_lossless <|
      .required (by decide) Container.format_lossless <|
      .maybe (by decide) string_lossless nofun <| .maybe (by decide) string_lossless nofun .none)
    fun _ => rfl

/-- Fields of schema types are lossless. -/
theorem Field.format_lossless : Field.format.Lossless :=
  lossless_record
    (.required (by decide) lossless_bool <| .required (by decide) string_lossless <|
      .required (by decide) TypeExpr.format_lossless <|
      .maybe (by decide) string_lossless nofun <|
      .maybe (by decide) Collection.format_lossless nofun .none)
    fun _ => rfl

/-- Kinds of edges are lossless. -/
theorem EdgeKind.format_lossless : EdgeKind.format.Lossless := lossless_choice (by decide)

/-- Labels of edges are lossless. -/
theorem EdgeLabel.format_lossless : EdgeLabel.format.Lossless :=
  lossless_record
    (.required (by decide) string_lossless <|
      .required (by decide) EdgeKind.format_lossless .none)
    fun _ => rfl

/-- Signatures are lossless. -/
theorem Signature.format_lossless : Signature.format.Lossless :=
  lossless_record
    (.required (by decide) string_lossless <| .required (by decide) string_lossless <|
      .required (by decide) string_lossless <| .required (by decide) TypeExpr.format_lossless <|
      .required (by decide) TypeExpr.format_lossless.list <|
      .defaulted (by decide) lossless_bool rfl .none)
    fun _ => rfl

/-- Severities are lossless. -/
theorem Severity.format_lossless : Severity.format.Lossless := lossless_choice (by decide)

/-- Codes are lossless. -/
theorem Code.format_lossless : Code.format.Lossless := lossless_choice (by decide)

/-- Diagnostics are lossless, as an empty context is assumed where none stands. -/
theorem Diagnostic.format_lossless : Diagnostic.format.Lossless :=
  lossless_record
    (.required (by decide) string_lossless <| .required (by decide) Code.format_lossless <|
      .required (by decide) string_lossless <|
      .field (by decide) string_lossless.list (fun _ same => Option.some.inj same ▸ rfl)
        (fun _ hidden => congrArg some (List.isEmpty_iff.mp hidden).symm) .none)
    fun _ => rfl

/-- Lists of diagnostics are lossless. -/
theorem Diagnostics.format_lossless : Diagnostics.format.Lossless :=
  lossless_record (.required (by decide) Diagnostic.format_lossless.list .none) fun _ => rfl

/-- Checksums are lossless, whatever their text is. -/
theorem Checksum.format_lossless : Checksum.format.Lossless :=
  lossless_phrase fun _ _ _ => rfl

/-- The settings of a compilation are lossless. -/
theorem CompilerSettings.format_lossless : CompilerSettings.format.Lossless :=
  lossless_record
    (.defaulted (by decide) string_lossless rfl <|
      .defaulted (by decide) string_lossless.list rfl <|
      .defaulted (by decide) lossless_bool rfl .none)
    fun _ => rfl

/-- Where declarations are found is lossless. -/
theorem DeclarationSettings.format_lossless : DeclarationSettings.format.Lossless :=
  lossless_record
    (.defaulted (by decide) (lossless_text _) rfl <|
      .defaulted (by decide) string_lossless.list rfl <|
      .defaulted (by decide) string_lossless.list rfl .none)
    fun _ => rfl

/-- Layouts are lossless. -/
theorem Layout.format_lossless : Layout.format.Lossless := lossless_choice (by decide)

/-- What is written is lossless. -/
theorem OutputSettings.format_lossless : OutputSettings.format.Lossless :=
  lossless_record
    (.defaulted (by decide) Layout.format_lossless rfl <|
      .defaulted (by decide) lossless_bool rfl .none)
    fun _ => rfl

/-- All settings are lossless: each part that is missing is assumed to be the standard one, which
is read back as it is what an empty record is read as. -/
theorem Settings.format_lossless : Settings.format.Lossless :=
  lossless_record
    (.defaulted (by decide) CompilerSettings.format_lossless
        (CompilerSettings.format_lossless (.object [] true) _ rfl) <|
      .defaulted (by decide) DeclarationSettings.format_lossless
        (DeclarationSettings.format_lossless (.object [] true) _ rfl) <|
      .defaulted (by decide) OutputSettings.format_lossless
        (OutputSettings.format_lossless (.object [] true) _ rfl) .none)
    fun _ => rfl

/-- The formats of all values that are both read and written. -/
def storedFormats : List ((α : Type) × Format α) :=
  [⟨_, Document.format⟩, ⟨_, DeclKind.format⟩, ⟨_, TypeDecl.format⟩, ⟨_, FieldDecl.format⟩,
    ⟨_, Cardinality.format⟩, ⟨_, Relation.format⟩, ⟨_, Projection.format⟩, ⟨_, Provider.format⟩,
    ⟨_, Computation.format⟩, ⟨_, MethodReference.format⟩, ⟨_, MethodDecl.format⟩,
    ⟨_, ParamDecl.format⟩, ⟨_, TypeExpr.format⟩, ⟨_, Kind.format⟩, ⟨_, Container.format⟩,
    ⟨_, Collection.format⟩, ⟨_, Field.format⟩, ⟨_, EdgeKind.format⟩, ⟨_, EdgeLabel.format⟩,
    ⟨_, Signature.format⟩, ⟨_, Code.format⟩, ⟨_, Severity.format⟩, ⟨_, Diagnostic.format⟩,
    ⟨_, Diagnostics.format⟩, ⟨_, Checksum.format⟩, ⟨_, CompilerSettings.format⟩,
    ⟨_, DeclarationSettings.format⟩, ⟨_, Layout.format⟩, ⟨_, OutputSettings.format⟩,
    ⟨_, Settings.format⟩]

/-- The formats of all stored values are lossless. -/
theorem storedFormats_lossless : ∀ stored ∈ storedFormats, stored.2.Lossless := by
  simp only [storedFormats, List.forall_mem_cons]
  exact ⟨Document.format_lossless, DeclKind.format_lossless, TypeDecl.format_lossless,
    FieldDecl.format_lossless, Cardinality.format_lossless, Relation.format_lossless,
    Projection.format_lossless, Provider.format_lossless, Computation.format_lossless,
    MethodReference.format_lossless, MethodDecl.format_lossless, ParamDecl.format_lossless,
    TypeExpr.format_lossless, Kind.format_lossless, Container.format_lossless,
    Collection.format_lossless, Field.format_lossless, EdgeKind.format_lossless,
    EdgeLabel.format_lossless, Signature.format_lossless, Code.format_lossless,
    Severity.format_lossless, Diagnostic.format_lossless, Diagnostics.format_lossless,
    Checksum.format_lossless, CompilerSettings.format_lossless,
    DeclarationSettings.format_lossless, Layout.format_lossless, OutputSettings.format_lossless,
    Settings.format_lossless, List.forall_mem_nil _⟩

/-- A value that was read from a text is read back from the text that is written of it, and the
value that is read back is written as the same text. -/
theorem stored_read_back : ∀ stored ∈ storedFormats, ∀ text value,
    stored.2.ofJsonText text = .ok value →
      ∃ again, stored.2.ofJsonText (stored.2.jsonText value) = .ok again ∧ again = value ∧
        stored.2.jsonText again = stored.2.jsonText value := by
  intro stored listed text value read
  have back := storedFormats_lossless stored listed _ value (Format.ofJsonText_eq_ok_iff.mp read).1
  exact ⟨value, back.ofJsonText, rfl, rfl⟩

/-- A text that leaves out most fields of a type and has no parent in the place of one. -/
def sparseText : String :=
  let type : Json.Value := .object [("extends", .null), ("name", .text "Order")]
  (Json.Value.object [("types", .array [type])]).compact

/-- The document that the sparse text is read as. -/
def sparseDocument : Document :=
  ⟨[⟨"Order", .plain, none, false, false, none, none, [], []⟩]⟩

/-- The sparse document is read back from the text that is written of it, where all fields stand. -/
theorem sparseDocument_read_back :
    ⟨Document, Document.format⟩ ∈ storedFormats ∧
      Document.format.ofJsonText sparseText = .ok sparseDocument ∧
        ∃ again, Document.format.ofJsonText (Document.format.jsonText sparseDocument) = .ok again ∧
          again = sparseDocument ∧
            Document.format.jsonText again = Document.format.jsonText sparseDocument := by
  have listed : ⟨Document, Document.format⟩ ∈ storedFormats := List.mem_cons_self
  have read : Document.format.ofJsonText sparseText = .ok sparseDocument := by
    rw [Format.ofJsonText_eq_ok_iff, sparseText, Json.Value.ofText_compact]
    exact ⟨rfl, rfl⟩
  exact ⟨listed, read, stored_read_back _ listed sparseText sparseDocument read⟩

end SchemaProjection
