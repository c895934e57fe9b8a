import SchemaProjection.Schema.Field
import SchemaProjection.Table

/-!
# Registries

A registry holds the fields of the schema types, entities and value objects apart and each in
the order in which they were found. A name may stand in both halves; the entity is then the one
that a lookup finds. A half is the map of `SchemaRegistry` for one role.
-/
namespace SchemaProjection

/-- `SchemaRole` — the half of a registry that a schema type belongs to. -/
inductive Role where
  /-- The entities. -/
  | entity
  /-- The value objects. -/
  | embeddable
deriving Repr, DecidableEq

/-- The name of a role. -/
def Role.name : Role → String
  | .entity => "entity"
  | .embeddable => "embeddable"

/-- The role of a type of a kind, none for a type that is no schema type. -/
def Kind.role? : Kind → Option Role
  | .entityLike => some .entity
  | .embeddableLike => some .embeddable
  | .scalar | .unknown => none

/-- `SchemaRegistry` — the schema types with their fields, in one table for each role. -/
structure Registry where
  /-- The map of the entities. -/
  entities : Table (Table Field)
  /-- The map of the value objects. -/
  embeddables : Table (Table Field)

namespace Registry

/-- The registry without types. -/
def empty : Registry := ⟨.empty, .empty⟩

instance : Inhabited Registry := ⟨empty⟩

/-- `SchemaRegistry::lookup` — the fields of a type, as an entity or else as a value object. -/
def lookup (registry : Registry) (name : String) : Option (Table Field) :=
  (registry.entities.find? name).or (registry.embeddables.find? name)

/-- `SchemaRegistry::contains` — whether a type has fields here. -/
def contains (registry : Registry) (name : String) : Bool := (registry.lookup name).isSome

/-- `SchemaRegistry::role` — the half in which a type is found. -/
def role? (registry : Registry) (name : String) : Option Role :=
  if registry.entities.contains name then some .entity
  else if registry.embeddables.contains name then some .embeddable
  else none

/-- `SchemaRegistry::field` — a field of a type. -/
def field? (registry : Registry) (type field : String) : Option Field :=
  (registry.lookup type).bind (·.find? field)

/-- `SchemaRegistry::all_types` — all types with their roles and fields, the entities first. -/
def types (registry : Registry) : List (Role × String × Table Field) :=
  registry.entities.entries.map (Role.entity, ·) ++
    registry.embeddables.entries.map (Role.embeddable, ·)

/-- `SchemaRegistry::type_count` — the number of types. -/
def size (registry : Registry) : Nat := registry.entities.size + registry.embeddables.size

/-- `SchemaRegistryBuilder::insert` — add the fields of a type, unless its half holds the type. -/
def add (registry : Registry) (role : Role) (name : String) (fields : Table Field) : Registry :=
  match role with
  | .entity => { registry with entities := registry.entities.add name fields }
  | .embeddable => { registry with embeddables := registry.embeddables.add name fields }

end Registry

end SchemaProjection
