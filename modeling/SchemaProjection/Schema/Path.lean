import SchemaProjection.Schema.Registry
import SchemaProjection.Diagnostic
import SchemaProjection.Text.Similarity

/-!
# Paths

A dotted path leads from a schema type over its fields to a field. Each segment is looked up in
the fields of the type that the segments before it lead to; a scalar cannot be followed further.
The first segment that leads nowhere is the fault of the path.
-/
namespace SchemaProjection

/-- `PathError` — why a path leads to no field. -/
inductive PathFault where
  /-- A type has no fields in the registry. -/
  | unresolvedType (path type : String)
  /-- A type has no field of the name; another of its fields may be meant. -/
  | unknownField (segment type path : String) (suggestion : Option String)
  /-- A field before the end is a scalar. -/
  | notNavigable (segment type path : String)
deriving Repr, DecidableEq

namespace PathFault

/-- The code of a fault. -/
def code : PathFault → Code
  | .unresolvedType _ _ => .unresolvedType
  | .unknownField _ _ _ _ => .unknownField
  | .notNavigable _ _ _ => .notNavigable

/-- The message of a fault. -/
def message : PathFault → String
  | .unresolvedType path type => s!"Cannot resolve path '{path}': type {type} has no schema entry"
  | .unknownField segment type path _ => s!"Unknown field '{segment}' on {type} in path '{path}'"
  | .notNavigable segment type path =>
    s!"Segment '{segment}' of path '{path}' is not navigable: {type}.{segment} is a scalar"

/-- The suggestion of a fault in words. -/
def context : PathFault → List String
  | .unknownField _ _ _ (some suggestion) => [s!"did you mean '{suggestion}'?"]
  | _ => []

/-- What is said of a fault. -/
def remark (fault : PathFault) : Remark := ⟨fault.code, fault.message, fault.context⟩

end PathFault

/-- `PathResolver` — a registry in which paths are followed. -/
structure Navigation where
  /-- Tells which fields are scalars. -/
  classifier : Classifier
  /-- The fields of the schema types. -/
  registry : Registry
  /-- Whether a field is suggested in place of an unknown one. -/
  suggests : Bool

namespace Navigation

/-- `PathResolver::field` — look up a segment of a path. -/
def fieldAt (navigation : Navigation) (path type segment : String)
    (suggest : Text.Suggester := Text.suggestion?) : Except PathFault Field :=
  match navigation.registry.lookup type with
  | none => .error (.unresolvedType path type)
  | some fields =>
    match fields.find? segment with
    | some field => .ok field
    | none =>
      .error (.unknownField segment type path
        (if navigation.suggests then suggest fields.names segment else none))

/-- The loop of `PathResolver::resolve_field` — follow a segment of a path and the segments behind
it from a type on. -/
def follow (navigation : Navigation) (path type segment : String) (rest : List String)
    (suggest : Text.Suggester := Text.suggestion?) : Except PathFault Field :=
  match rest with
  | [] => navigation.fieldAt path type segment suggest
  | next :: rest => do
    let field ← navigation.fieldAt path type segment suggest
    if navigation.classifier.kindOf field.relatedType = .scalar then
      .error (.notNavigable segment type path)
    else navigation.follow path field.relatedType next rest suggest

/-- `PathResolver::resolve_field` — the field that a path leads to from a root type. -/
def resolve (navigation : Navigation) (root path : String)
    (suggest : Text.Suggester := Text.suggestion?) : Except PathFault Field :=
  match Text.segments path with
  | [] => .error (.unknownField path root path none)
  | segment :: rest => navigation.follow path root segment rest suggest

end Navigation

end SchemaProjection
