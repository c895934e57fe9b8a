import SchemaProjection.Diagnostic

/-!
# Findings on schema types

What may be wrong with a schema type itself. The identifiers of an entity are counted after all
its fields are known; a field is held to be embedded in the type that was asked for, also when a
supertype declares it.
-/
namespace SchemaProjection

/-- `SchemaError` — something wrong with a schema type. -/
inductive Finding where
  /-- An entity has no identifier. -/
  | missingIdentifier (type : String)
  /-- An entity has several identifiers and no composite. -/
  | duplicateIdentifier (type : String) (fields : List String)
  /-- An embedded field has a type that is no value object. -/
  | notAValueObject (owner field type : String)
deriving Repr, DecidableEq

namespace Finding

/-- `SchemaError::owner` — the schema type that a finding is reported on. -/
def owner : Finding → String
  | .missingIdentifier type | .duplicateIdentifier type _ => type
  | .notAValueObject owner _ _ => owner

/-- The code of a finding. -/
def code : Finding → Code
  | .missingIdentifier _ => .missingIdentifier
  | .duplicateIdentifier _ _ => .duplicateIdentifier
  | .notAValueObject _ _ _ => .notAValueObject

/-- The message of a finding. -/
def message : Finding → String
  | .missingIdentifier type => s!"Entity {type} declares no identifier field"
  | .duplicateIdentifier type fields =>
    let count := fields.length
    let listed := Text.joined ", " fields
    s!"Entity {type} declares {count} identifier fields ({listed}) without a composite identifier"
  | .notAValueObject owner field type =>
    s!"Field {owner}.{field} is embedded but {type} is not a value object"

/-- What is said of a finding. -/
def remark (finding : Finding) : Remark := ⟨finding.code, finding.message, []⟩

/-- A finding is reported on the schema type. -/
def diagnostic (finding : Finding) : Diagnostic := .about finding.owner finding.remark

end Finding

end SchemaProjection
