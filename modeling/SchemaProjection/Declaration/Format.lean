import SchemaProjection.Declaration
import SchemaProjection.Format
import SchemaProjection.TypeExpr.Parser

/-!
# Formats of declarations

How declarations stand in a document: the names of their fields, which of them may be left out,
and what is assumed then. A type expression stands as its text.
-/
namespace SchemaProjection

/-- The format of type expressions. -/
def TypeExpr.format : Format TypeExpr :=
  .phrase (fun text => (TypeExpr.parse text).mapError TypeExpr.Fault.message) TypeExpr.text

/-- The name of a sort of types. -/
def DeclKind.name : DeclKind → String
  | .plain => "class"
  | .enum => "enum"
  | .interface => "interface"

/-- The format of the sort of a type. -/
def DeclKind.format : Format DeclKind :=
  .choice ([.plain, .enum, .interface].map fun kind => (kind.name, kind)) DeclKind.name

/-- The name of a cardinality. -/
def Cardinality.name : Cardinality → String
  | .oneToOne => "one_to_one"
  | .manyToOne => "many_to_one"
  | .oneToMany => "one_to_many"
  | .manyToMany => "many_to_many"
  | .elementCollection => "element_collection"

/-- The format of a cardinality. -/
def Cardinality.format : Format Cardinality :=
  .choice ([.oneToOne, .manyToOne, .oneToMany, .manyToMany, .elementCollection].map
    fun cardinality => (cardinality.name, cardinality)) Cardinality.name

/-- The format of a relationship marker. -/
def Relation.format : Format Relation :=
  .record "RelationDecl"
    (.required "kind" Cardinality.format <| .maybe "mapped_by" .string <|
      .maybe "target" .string .none)
    (fun (cardinality, mappedBy, target, ()) => ⟨cardinality, mappedBy, target⟩)
    (fun relation => (relation.cardinality, relation.mappedBy, relation.target, ()))

/-- The format of a provider. -/
def Provider.format : Format Provider :=
  .record "ProviderRef"
    (.required "type" .string <| .maybe "bean" .string .none)
    (fun (type, bean, ()) => ⟨type, bean⟩)
    (fun provider => (provider.type, provider.bean, ()))

/-- The format of what a view projects. -/
def Projection.format : Format Projection :=
  .record "ProjectionDecl"
    (.required "source" .string <| .defaulted "providers" (.list Provider.format) [] .none)
    (fun (source, providers, ()) => ⟨source, providers⟩)
    (fun projection => (projection.source, projection.providers, ()))

/-- The format of a computation. -/
def Computation.format : Format Computation :=
  .record "ComputedDecl"
    (.defaulted "depends_on" (.list .string) [] <| .defaulted "reducers" (.list .string) [] .none)
    (fun (dependencies, reducers, ()) => ⟨dependencies, reducers⟩)
    (fun computation => (computation.dependencies, computation.reducers, ()))

/-- The format of a named method. -/
def MethodReference.format : Format MethodReference :=
  .record "MethodReference"
    (.maybe "type" .string <| .required "name" .string .none)
    (fun (type, name, ()) => ⟨type, name⟩)
    (fun reference => (reference.type, reference.name, ()))

/-- The format of a field. -/
def FieldDecl.format : Format FieldDecl :=
  .record "FieldDecl"
    (.required "name" .string <| .required "type" TypeExpr.format <|
      .defaulted "id" .bool false <| .defaulted "embedded_id" .bool false <|
      .defaulted "embedded" .bool false <| .defaulted "transient" .bool false <|
      .defaulted "static" .bool false <| .maybe "relation" Relation.format <|
      .maybe "order_by" .string <| .maybe "maps_id" .string <| .maybe "path" .string <|
      .maybe "computed" Computation.format <| .maybe "method" MethodReference.format <|
      .defaulted "exclude" .bool false .none)
    (fun (name, type, isIdentifier, isEmbeddedIdentifier, isEmbedded, isTransient, isStatic,
        relation, ordering, mapsIdentifier, path, computed, method, isExcluded, ()) =>
      ⟨name, type, isIdentifier, isEmbeddedIdentifier, isEmbedded, isTransient, isStatic,
        relation, ordering, mapsIdentifier, path, computed, method, isExcluded⟩)
    (fun field =>
      (field.name, field.type, field.isIdentifier, field.isEmbeddedIdentifier, field.isEmbedded,
        field.isTransient, field.isStatic, field.relation, field.ordering, field.mapsIdentifier,
        field.path, field.computed, field.method, field.isExcluded, ()))

/-- The format of a parameter. -/
def ParamDecl.format : Format ParamDecl :=
  .record "ParamDecl"
    (.required "name" .string <| .required "type" TypeExpr.format .none)
    (fun (name, type, ()) => ⟨name, type⟩)
    (fun param => (param.name, param.type, ()))

/-- The format of a method. -/
def MethodDecl.format : Format MethodDecl :=
  .record "MethodDecl"
    (.required "name" .string <| .required "returns" TypeExpr.format <|
      .defaulted "params" (.list ParamDecl.format) [] <| .defaulted "static" .bool false .none)
    (fun (name, returns, params, isStatic, ()) => ⟨name, returns, params, isStatic⟩)
    (fun method => (method.name, method.returns, method.params, method.isStatic, ()))

/-- The format of a type. -/
def TypeDecl.format : Format TypeDecl :=
  .record "TypeDecl"
    (.required "name" .string <| .defaulted "kind" DeclKind.format .plain <|
      .maybe "extends" .string <| .defaulted "entity" .bool false <|
      .defaulted "embeddable" .bool false <| .maybe "id_class" .string <|
      .maybe "projection" Projection.format <| .defaulted "fields" (.list FieldDecl.format) [] <|
      .defaulted "methods" (.list MethodDecl.format) [] .none)
    (fun (name, kind, parent, isEntity, isEmbeddable, identifierClass, projection, fields,
        methods, ()) =>
      ⟨name, kind, parent, isEntity, isEmbeddable, identifierClass, projection, fields, methods⟩)
    (fun decl =>
      (decl.name, decl.kind, decl.parent, decl.isEntity, decl.isEmbeddable, decl.identifierClass,
        decl.projection, decl.fields, decl.methods, ()))

/-- The format of a document. -/
def Document.format : Format Document :=
  .record "DeclarationDocument"
    (.defaulted "types" (.list TypeDecl.format) [] .none)
    (fun (types, ()) => ⟨types⟩)
    (fun document => (document.types, ()))

end SchemaProjection
