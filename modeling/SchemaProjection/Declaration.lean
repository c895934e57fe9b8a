import SchemaProjection.TypeExpr

/-!
# Declarations

A declaration describes one type as data: its supertype, its markers, its fields and methods.
Schema types carry the marker of an entity or of a value object, a view carries the source it
projects, and a provider carries the methods that compute fields of views.
-/
namespace SchemaProjection

/-- `DeclKind` — the sort of a declared type. -/
inductive DeclKind where
  /-- A class, unless another sort is named. -/
  | plain
  /-- An enumeration. -/
  | enum
  /-- An interface. -/
  | interface
deriving Repr, DecidableEq

/-- `RelationKind` — the cardinality of a relationship. -/
inductive Cardinality where
  /-- One to one. -/
  | oneToOne
  /-- Many to one. -/
  | manyToOne
  /-- One to many. -/
  | oneToMany
  /-- Many to many. -/
  | manyToMany
  /-- A collection of values without an identity. -/
  | elementCollection
deriving Repr, DecidableEq

/-- `RelationKind::is_to_many` — whether a relationship has many targets. -/
def Cardinality.isToMany : Cardinality → Bool
  | .oneToMany | .manyToMany | .elementCollection => true
  | .oneToOne | .manyToOne => false

/-- `RelationDecl` — the relationship marker of a field. -/
structure Relation where
  /-- How many values stand on both sides. -/
  cardinality : Cardinality
  /-- The field of the target that owns the relationship. -/
  mappedBy : Option String
  /-- The target type of a container that does not name its elements. -/
  target : Option String
deriving Repr, DecidableEq

/-- `ProviderRef` — a provider type and a hint by which an instance of it is found. -/
structure Provider where
  /-- The provider type. -/
  type : String
  /-- The name of the instance. -/
  bean : Option String
deriving Repr, DecidableEq

/-- `ProjectionDecl` — what makes a type a view: the schema type it projects and the providers of
its computed fields in order of precedence. -/
structure Projection where
  /-- The schema type. -/
  source : String
  /-- The providers in order of precedence. -/
  providers : List Provider
deriving Repr, DecidableEq

/-- `ComputedDecl` — what a computed field is derived from. -/
structure Computation where
  /-- Paths from the source of the view. -/
  dependencies : List String
  /-- One reducer for each dependency with many values. -/
  reducers : List String
deriving Repr, DecidableEq

/-- `MethodReference` — a method named for a computed field in place of the conventional one. -/
structure MethodReference where
  /-- The only provider that is searched, if one is named. -/
  type : Option String
  /-- The name of the method. -/
  name : String
deriving Repr, DecidableEq

/-- `FieldDecl` — a declared field with its markers. -/
structure FieldDecl where
  /-- The name of the field. -/
  name : String
  /-- The declared type. -/
  type : TypeExpr
  /-- `id`: the field is an identifier. -/
  isIdentifier : Bool
  /-- `embedded_id`: the field is an identifier of several components. -/
  isEmbeddedIdentifier : Bool
  /-- The field holds a value object. -/
  isEmbedded : Bool
  /-- The field is not stored. -/
  isTransient : Bool
  /-- The field belongs to the type and not to its instances. -/
  isStatic : Bool
  /-- The relationship marker. -/
  relation : Option Relation
  /-- `order_by`: the order of the elements of a relationship. -/
  ordering : Option String
  /-- `maps_id`: the component of the identifier that a relationship maps. -/
  mapsIdentifier : Option String
  /-- The path that a field of a view is copied from. -/
  path : Option String
  /-- How a field of a view is computed. -/
  computed : Option Computation
  /-- The method that computes a field of a view. -/
  method : Option MethodReference
  /-- `exclude`: the field takes no part in a view. -/
  isExcluded : Bool
deriving Repr, DecidableEq

/-- `FieldDecl::is_persistent` — whether a field is part of a schema type. -/
def FieldDecl.isPersistent (field : FieldDecl) : Bool := !(field.isStatic || field.isTransient)

/-- `FieldDecl::is_mapped` — whether a view has to fill a field. -/
def FieldDecl.isMapped (field : FieldDecl) : Bool := field.isPersistent && !field.isExcluded

/-- `ParamDecl` — a parameter of a method. -/
structure ParamDecl where
  /-- The name of the parameter. -/
  name : String
  /-- The type of the parameter. -/
  type : TypeExpr
deriving Repr, DecidableEq

/-- `MethodDecl` — a declared method. -/
structure MethodDecl where
  /-- The name of the method. -/
  name : String
  /-- The type of the result. -/
  returns : TypeExpr
  /-- The parameters in order. -/
  params : List ParamDecl
  /-- The method needs no instance. -/
  isStatic : Bool
deriving Repr, DecidableEq

/-- `TypeDecl` — a declared type. -/
structure TypeDecl where
  /-- The name of the type. -/
  name : String
  /-- The sort of the type. -/
  kind : DeclKind
  /-- `extends`: the direct supertype. -/
  parent : Option String
  /-- The type is an entity. -/
  isEntity : Bool
  /-- The type is a value object. -/
  isEmbeddable : Bool
  /-- `id_class`: the type that holds the components of a composite identifier. -/
  identifierClass : Option String
  /-- What the type projects, if it is a view. -/
  projection : Option Projection
  /-- The fields in order. -/
  fields : List FieldDecl
  /-- The methods in order. -/
  methods : List MethodDecl
deriving Repr, DecidableEq

/-- `TypeDecl::is_enum` — whether a type is an enumeration. -/
def TypeDecl.isEnum (decl : TypeDecl) : Bool := decl.kind == .enum

/-- `TypeDecl::is_view` — whether a type is a view. -/
def TypeDecl.isView (decl : TypeDecl) : Bool := decl.projection.isSome

/-- `DeclarationDocument` — the declared types of one document. -/
structure Document where
  /-- The types in order. -/
  types : List TypeDecl
deriving Repr, DecidableEq

end SchemaProjection
