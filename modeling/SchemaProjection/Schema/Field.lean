import SchemaProjection.Declaration.Format
import SchemaProjection.Schema.Kind

/-!
# Fields of schema types

A field of a schema type is an identifier, a single value, or a collection. The related type of
a field is the name that a path is followed to: the element type of a collection, and the type
itself of any other field.
-/
namespace SchemaProjection

/-- `CollectionDescriptor` — what is known of the elements of a collection. -/
structure Collection where
  /-- The kind of the element type. -/
  kind : Kind
  /-- The shape of the collection. -/
  container : Container
  /-- `inverse_field`: the field of the element type that refers back. -/
  inverse : Option String
  /-- The order of the elements, as declared. -/
  ordering : Option String
deriving Repr, DecidableEq

/-- The format of collections. -/
def Collection.format : Format Collection :=
  .record "CollectionDescriptor"
    (.required "kind" Kind.format <| .required "container" Container.format <|
      .maybe "inverse_field" .string <| .maybe "ordering" .string .none)
    (fun (kind, container, inverse, ordering, ()) => ⟨kind, container, inverse, ordering⟩)
    (fun collection =>
      (collection.kind, collection.container, collection.inverse, collection.ordering, ()))

/-- `FieldDescriptor` — a field of a schema type. -/
structure Field where
  /-- The field is an identifier or a component of one. -/
  isIdentifier : Bool
  /-- The type that a path is followed to. -/
  relatedType : String
  /-- The type as declared. -/
  declaredType : TypeExpr
  /-- `mapped_identifier_field`: the component of the identifier that the field maps. -/
  mappedIdentifier : Option String
  /-- The elements, if the field is a collection. -/
  collection : Option Collection
deriving Repr, DecidableEq

namespace Field

/-- `FieldDescriptor::single` — a field with one value. -/
def single (type : TypeExpr) : Field := ⟨false, type.text, type, none, none⟩

/-- `FieldDescriptor::identifier` — a field that is an identifier. -/
def identifier (type : TypeExpr) : Field := ⟨true, type.text, type, none, none⟩

/-- `FieldDescriptor::collection_valued` — a field whose value is a collection of elements of a
type. -/
def many (type : TypeExpr) (element : String) (collection : Collection) : Field :=
  ⟨false, element, type, none, some collection⟩

/-- `FieldDescriptor::with_mapped_identifier` — a field that maps a component of the identifier. -/
def mapping (field : Field) (component : Option String) : Field :=
  { field with mappedIdentifier := component }

/-- `FieldDescriptor::is_collection` — whether the value of a field is a collection. -/
def isCollection (field : Field) : Bool := field.collection.isSome

/-- The format of fields. -/
def format : Format Field :=
  .record "FieldDescriptor"
    (.required "is_identifier" .bool <| .required "related_type" .string <|
      .required "declared_type" TypeExpr.format <| .maybe "mapped_identifier_field" .string <|
      .maybe "collection" Collection.format .none)
    (fun (isIdentifier, relatedType, declaredType, mappedIdentifier, collection, ()) =>
      ⟨isIdentifier, relatedType, declaredType, mappedIdentifier, collection⟩)
    (fun field =>
      (field.isIdentifier, field.relatedType, field.declaredType, field.mappedIdentifier,
        field.collection, ()))

end Field

end SchemaProjection
