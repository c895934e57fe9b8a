import SchemaProjection.Declaration.Format
import SchemaProjection.Method

/-!
# Format of signatures

How a method that was found stands in a document.
-/
namespace SchemaProjection

/-- The format of signatures. -/
def Signature.format : Format Signature :=
  .record "MethodSignature"
    (.required "provider" .string <| .required "declared_in" .string <|
      .required "name" .string <| .required "return_type" TypeExpr.format <|
      .required "parameters" (.list TypeExpr.format) <| .defaulted "is_static" .bool false .none)
    (fun (provider, declaredIn, name, returns, parameters, isStatic, ()) =>
      ⟨provider, declaredIn, name, returns, parameters, isStatic⟩)
    (fun signature =>
      (signature.provider, signature.declaredIn, signature.name, signature.returns,
        signature.parameters, signature.isStatic, ()))

end SchemaProjection
