import SchemaProjection.Model
import SchemaProjection.Format

/-!
# Kinds of types

Every type name has a kind. A declared entity or value object is of its kind whatever it is
called; a declared enumeration is a scalar, and so are the types of a fixed list, known by their
full or their simple name, and the names that the settings add. Every other name is unknown.
The container of a field is told by the simple name of its type.
-/
namespace SchemaProjection

/-- `Kind` — what a type name refers to. -/
inductive Kind where
  /-- A single value. -/
  | scalar
  /-- An entity. -/
  | entityLike
  /-- A value object. -/
  | embeddableLike
  /-- A type about which nothing is known. -/
  | unknown
deriving Repr, DecidableEq

namespace Kind

/-- `Kind::is_schema_type` — whether types of a kind have fields of their own. -/
def isSchemaType : Kind → Bool
  | .entityLike | .embeddableLike => true
  | .scalar | .unknown => false

/-- The name of a kind. -/
def name : Kind → String
  | .scalar => "scalar"
  | .entityLike => "entity_like"
  | .embeddableLike => "embeddable_like"
  | .unknown => "unknown"

/-- The format of a kind. -/
def format : Format Kind :=
  .choice ([.scalar, .entityLike, .embeddableLike, .unknown].map fun kind => (kind.name, kind)) name

end Kind

/-- `Container` — the shape of a collection. -/
inductive Container where
  /-- A list. -/
  | list
  /-- A set. -/
  | set
  /-- A map, whose elements are its values. -/
  | map
  /-- A collection of no particular shape. -/
  | collection
  /-- A type that is none of these. -/
  | unknown
deriving Repr, DecidableEq

namespace Container

/-- The name of a container. -/
def name : Container → String
  | .list => "list"
  | .set => "set"
  | .map => "map"
  | .collection => "collection"
  | .unknown => "unknown"

/-- The format of a container. -/
def format : Format Container :=
  .choice ([.list, .set, .map, .collection, .unknown].map fun shape => (shape.name, shape)) name

/-- `TypeClassifier::classify_container` — the container that a type is, if it is one; an array is
none. -/
def ofType? (type : TypeExpr) : Option Container :=
  if type.isArray then none
  else match type.simpleName with
    | "List" => some .list
    | "Set" => some .set
    | "Map" => some .map
    | "Collection" => some .collection
    | _ => none

end Container

/-- `SCALAR_TYPES` — primitive, boxed, text, numeric, temporal, identity and binary types. -/
def scalarTypes : List String :=
  ["boolean", "byte", "short", "int", "long", "float", "double", "char",
   "Boolean", "Byte", "Short", "Integer", "Long", "Float", "Double", "Character",
   "String", "CharSequence",
   "Number", "BigDecimal", "BigInteger",
   "Date", "Calendar", "Instant", "Duration", "Period", "LocalDate", "LocalTime",
   "LocalDateTime", "OffsetTime", "OffsetDateTime", "ZonedDateTime", "Year", "YearMonth",
   "UUID", "byte[]", "Byte[]", "char[]", "Character[]"]

/-- `TypeClassifier` — a model and the names that count as scalars besides the fixed list. -/
structure Classifier where
  /-- The declared types. -/
  model : Model
  /-- Further scalars, by their full names. -/
  extraScalars : List String

namespace Classifier

/-- A name of `TypeClassifier::is_builtin_scalar`, or one of the further scalars. -/
def isScalarName (classifier : Classifier) (name : String) : Bool :=
  scalarTypes.contains name || scalarTypes.contains (Text.simpleName name) ||
    classifier.extraScalars.contains name

/-- The kind of a name that is no entity, value object or enumeration. -/
def undeclaredKind (classifier : Classifier) (name : String) : Kind :=
  if classifier.isScalarName name then .scalar else .unknown

/-- `TypeClassifier::classify_kind` — the kind of a name. -/
def kindOf (classifier : Classifier) (name : String) : Kind :=
  match classifier.model.lookup name with
  | some decl =>
    if decl.isEntity then .entityLike
    else if decl.isEmbeddable then .embeddableLike
    else if decl.isEnum then .scalar
    else classifier.undeclaredKind name
  | none => classifier.undeclaredKind name

/-- A name that is not declared is no schema type. -/
theorem isSchemaType_declared {classifier : Classifier} {name : String}
    (schemaType : (classifier.kindOf name).isSchemaType) :
    ∃ decl, classifier.model.lookup name = some decl := by
  cases found : classifier.model.lookup name with
  | some decl => exact ⟨decl, rfl⟩
  | none =>
    simp only [kindOf, found, undeclaredKind] at schemaType
    split at schemaType <;> simp [Kind.isSchemaType] at schemaType

end Classifier

end SchemaProjection
