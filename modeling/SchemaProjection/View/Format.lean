import SchemaProjection.Format.Json
import SchemaProjection.Method.Format
import SchemaProjection.View

/-!
# Written views

How a compiled view stands in a document. The elements of a copied field and the declared method
of a computed one are left out when there are none.
-/
namespace SchemaProjection

/-- The format of copied fields. -/
def Mapping.format : Format Mapping :=
  .record "DirectMapping"
    (.required "target_field" .string <| .required "source_path" .string <|
      .required "target_type" .string <| .maybe "collection" Collection.format .none)
    (fun (target, path, type, collection, ()) => ⟨target, path, type, collection⟩)
    (fun mapping => (mapping.target, mapping.path, mapping.type, mapping.collection, ()))

/-- The format of computed fields. -/
def Derivation.format : Format Derivation :=
  .record "ComputedField"
    (.required "target_field" .string <| .required "dependency_paths" (.list .string) <|
      .required "reducers" (.list .string) <|
      .maybe "method_reference" MethodReference.format <|
      .required "resolved_method" Signature.format .none)
    (fun (target, dependencies, reducers, reference, method, ()) =>
      ⟨target, dependencies, reducers, reference, method⟩)
    (fun derivation =>
      (derivation.target, derivation.dependencies, derivation.reducers, derivation.reference,
        derivation.method, ()))

/-- The format of views. -/
def View.format : Format View :=
  .record "ProjectionMetadata"
    (.required "source_type" .string <| .required "direct_mappings" (.list Mapping.format) <|
      .required "computed_fields" (.list Derivation.format) <|
      .required "providers" (.list Provider.format) .none)
    (fun (source, mappings, derivations, providers, ()) =>
      ⟨source, mappings, derivations, providers⟩)
    (fun view => (view.source, view.mappings, view.derivations, view.providers, ()))

end SchemaProjection
