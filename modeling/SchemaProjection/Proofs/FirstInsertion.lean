import Mathlib.Data.List.Dedup
import Mathlib.Data.Prod.Basic
import SchemaProjection.Proofs.DiscoveryRuns
import SchemaProjection.Proofs.Walks

/-!
# First insertions

Fields that are inserted under a name stay those of the name in its half, so in each half the first
insertion of a name counts (`Registry.find?_half_ofInsertions`). The halves do not know of each
other: a name that is inserted as a value object and then as an entity has two entries, and a lookup
finds the later one. So the first insertion of a name is what is found, exactly unless an entity
overtakes a value object in this way, and a name has one entry exactly if it is inserted in one half
only (`ofInsertions_firstWins_iff`).
-/
namespace SchemaProjection

/-- Fields that are inserted under a name. -/
structure Insertion where
  /-- The half. -/
  role : Role
  /-- The name of the type. -/
  name : String
  /-- The fields of the type. -/
  fields : Table Field

namespace Insertion

/-- The first insertion of a name. -/
def first (name : String) (insertions : List Insertion) : Option Insertion :=
  insertions.find? fun insertion => insertion.name = name

/-- The first insertion of a name in a half. -/
def firstIn (role : Role) (name : String) (insertions : List Insertion) : Option Insertion :=
  insertions.find? fun insertion => insertion.role = role ∧ insertion.name = name

/-- A name is inserted first as a value object and later as an entity. -/
def Overtaken (name : String) (insertions : List Insertion) : Prop :=
  (∃ value, first name insertions = some value ∧ value.role = .embeddable) ∧
    ∃ entity ∈ insertions, entity.role = .entity ∧ entity.name = name

/-- No name is inserted in both halves. -/
def OneHalfEach (insertions : List Insertion) : Prop :=
  ∀ left ∈ insertions, ∀ right ∈ insertions, left.name = right.name → left.role = right.role

/-- The first insertion in a half is in this half. -/
theorem role_of_firstIn {role : Role} {name : String} {insertions : List Insertion}
    {insertion : Insertion} (found : firstIn role name insertions = some insertion) :
    insertion.role = role := by
  have holds := List.find?_some found
  simp only [decide_eq_true_eq] at holds
  exact holds.1

/-- A name has a first insertion in a half exactly if it is inserted in the half. -/
theorem isSome_firstIn_iff {role : Role} {name : String} {insertions : List Insertion} :
    (firstIn role name insertions).isSome = true ↔
      ∃ insertion ∈ insertions, insertion.role = role ∧ insertion.name = name := by
  rw [firstIn, List.find?_isSome]
  simp only [decide_eq_true_eq]

/-- The first insertion of a name is the first one in its half. -/
theorem firstIn_of_first {name : String} {insertions : List Insertion} {insertion : Insertion}
    (found : first name insertions = some insertion) :
    firstIn insertion.role name insertions = some insertion := by
  rw [first, List.find?_eq_some_iff_append] at found
  obtain ⟨same, front, back, rfl, before⟩ := found
  rw [firstIn, List.find?_eq_some_iff_append]
  refine ⟨by simpa using same, front, back, rfl, fun other listed => ?_⟩
  have differs := before other listed
  simp only [Bool.not_eq_true', decide_eq_false_iff_not] at differs ⊢
  exact fun both => differs both.2

/-- Where a name is no entity its first insertion is the first as a value object. -/
theorem firstIn_or_first (name : String) (insertions : List Insertion) :
    (firstIn .entity name insertions).or (first name insertions) =
      (firstIn .entity name insertions).or (firstIn .embeddable name insertions) := by
  induction insertions with
  | nil => rfl
  | cons insertion rest ih =>
    simp only [firstIn, first, List.find?_cons] at ih ⊢
    by_cases same : insertion.name = name
    · cases insertion.role <;> simp [same]
    · simpa [same] using ih

end Insertion

open Insertion

namespace Registry

/-- Insert fields under names, one after the other. -/
def addAll (registry : Registry) (insertions : List Insertion) : Registry :=
  insertions.foldl (fun registry insertion =>
    registry.add insertion.role insertion.name insertion.fields) registry

/-- The registry of insertions. -/
def ofInsertions (insertions : List Insertion) : Registry := empty.addAll insertions

/-- What is found under a name is an insertion; where there is none, nothing is found. -/
structure Finds (registry : Registry) (name : String) (insertion : Option Insertion) : Prop where
  /-- The fields of the name are those of the insertion. -/
  lookup : registry.lookup name = insertion.map Insertion.fields
  /-- The role of the name is that of the insertion. -/
  role : registry.role? name = insertion.map Insertion.role
  /-- Each field of the name is that of the insertion. -/
  field : ∀ field, registry.field? name field =
    insertion.bind fun insertion => insertion.fields.find? field

/-- In a half that holds a name already nothing is inserted under it; else the first insertion in
this half counts. -/
theorem find?_half_addAll (registry : Registry) (insertions : List Insertion) (role : Role)
    (name : String) :
    ((registry.addAll insertions).half role).find? name =
      ((registry.half role).find? name).or
        ((firstIn role name insertions).map Insertion.fields) := by
  induction insertions generalizing registry with
  | nil => simp [addAll, firstIn]
  | cons insertion rest ih =>
    have later := ih (registry.add insertion.role insertion.name insertion.fields)
    rw [find?_half_add, Option.or_assoc] at later
    rw [show registry.addAll (insertion :: rest) =
      (registry.add insertion.role insertion.name insertion.fields).addAll rest from rfl, later]
    congr 1
    rw [firstIn, firstIn, List.find?_cons]
    by_cases own : role = insertion.role ∧ name = insertion.name
    · simp [own.1, own.2]
    · have other : ¬(insertion.role = role ∧ insertion.name = name) := fun same =>
        own ⟨same.1.symm, same.2.symm⟩
      simp [own, other]

/-- In each half the first insertion of a name counts. -/
theorem find?_half_ofInsertions (insertions : List Insertion) (role : Role) (name : String) :
    ((ofInsertions insertions).half role).find? name =
      (firstIn role name insertions).map Insertion.fields := by
  rw [ofInsertions, find?_half_addAll]
  cases role <;> rfl

/-- The names in a half are those that are inserted in it. -/
theorem mem_names_half_ofInsertions {insertions : List Insertion} {role : Role} {name : String} :
    name ∈ ((ofInsertions insertions).half role).names ↔
      ∃ insertion ∈ insertions, insertion.role = role ∧ insertion.name = name := by
  rw [← Table.isSome_find?_iff, find?_half_ofInsertions, Option.isSome_map, isSome_firstIn_iff]

/-- Under a name its first insertion as an entity is found, or else its first insertion. -/
theorem finds_ofInsertions (insertions : List Insertion) (name : String) :
    (ofInsertions insertions).Finds name
      ((firstIn .entity name insertions).or (first name insertions)) := by
  have entities : (ofInsertions insertions).entities.find? name =
      (firstIn .entity name insertions).map Insertion.fields :=
    find?_half_ofInsertions insertions .entity name
  have embeddables : (ofInsertions insertions).embeddables.find? name =
      (firstIn .embeddable name insertions).map Insertion.fields :=
    find?_half_ofInsertions insertions .embeddable name
  have lookup : (ofInsertions insertions).lookup name =
      ((firstIn .entity name insertions).or (first name insertions)).map Insertion.fields := by
    rw [Registry.lookup, entities, embeddables, firstIn_or_first, Option.map_or]
  refine ⟨lookup, ?_, fun field => ?_⟩
  · rw [role?, Table.contains, Table.contains, entities, embeddables, firstIn_or_first]
    cases entity : firstIn .entity name insertions with
    | some insertion => simp [role_of_firstIn entity]
    | none =>
      cases embeddable : firstIn .embeddable name insertions with
      | some insertion => simp [role_of_firstIn embeddable]
      | none => rfl
  · rw [field?, lookup, Option.bind_map]
    rfl

/-- The names of the types, each with the half in which it stands. -/
def keys (registry : Registry) : List (Role × String) :=
  registry.types.map fun (role, name, _) => (role, name)

/-- The keys are the names in both halves. -/
theorem keys_eq (registry : Registry) :
    registry.keys = registry.entities.names.map (Role.entity, ·) ++
      registry.embeddables.names.map (Role.embeddable, ·) := by
  simp [keys, types, Table.names, Function.comp_def]

/-- A registry has as many types as keys. -/
theorem length_keys (registry : Registry) : registry.keys.length = registry.size := by
  simp [keys_eq, size, Table.names, Table.size]

/-- A name stands in a half once. -/
theorem nodup_keys (registry : Registry) : registry.keys.Nodup := by
  rw [keys_eq, List.nodup_append']
  refine ⟨registry.entities.unique.map (Prod.mk_right_injective _),
    registry.embeddables.unique.map (Prod.mk_right_injective _), ?_⟩
  intro key entity embeddable
  obtain ⟨name, -, rfl⟩ := List.mem_map.mp entity
  obtain ⟨other, -, same⟩ := List.mem_map.mp embeddable
  cases same

/-- The keys are the names with the halves that hold them. -/
theorem mem_keys_iff {registry : Registry} {role : Role} {name : String} :
    (role, name) ∈ registry.keys ↔ name ∈ (registry.half role).names := by
  rw [keys_eq, List.mem_append]
  cases role <;> simp [half]

/-- A registry has as many types as pairs of a half and a name are inserted. -/
theorem size_ofInsertions (insertions : List Insertion) :
    (ofInsertions insertions).size =
      (insertions.map fun insertion => (insertion.role, insertion.name)).dedup.length := by
  have same : (ofInsertions insertions).keys.Perm
      (insertions.map fun insertion => (insertion.role, insertion.name)).dedup := by
    refine (List.perm_ext_iff_of_nodup (nodup_keys _) (List.nodup_dedup _)).mpr ?_
    rintro ⟨role, name⟩
    rw [mem_keys_iff, mem_names_half_ofInsertions, List.mem_dedup, List.mem_map]
    simp only [Prod.mk.injEq]
  rw [← length_keys, same.length_eq]

/-- A registry has as many types as names are inserted exactly if none is inserted in both
halves. -/
theorem size_ofInsertions_eq_iff {insertions : List Insertion} :
    (ofInsertions insertions).size = (insertions.map Insertion.name).dedup.length ↔
      OneHalfEach insertions := by
  let pairs := (insertions.map fun insertion => (insertion.role, insertion.name)).dedup
  have names : (pairs.map Prod.snd).dedup.Perm (insertions.map Insertion.name).dedup :=
    (List.perm_ext_iff_of_nodup (List.nodup_dedup _) (List.nodup_dedup _)).mpr fun name => by
      simp [pairs]
  -- Pairs are lost when the halves are left out exactly if two of them share a name.
  have lost : (ofInsertions insertions).size = (insertions.map Insertion.name).dedup.length ↔
      (pairs.map Prod.snd).Nodup := by
    rw [size_ofInsertions, ← names.length_eq, ← List.length_map Prod.snd, eq_comm,
      (List.dedup_sublist _).length_eq, List.dedup_eq_self]
  rw [lost, List.nodup_map_iff_inj_on (List.nodup_dedup _)]
  simp only [List.mem_dedup, List.forall_mem_map, Prod.mk.injEq, OneHalfEach]
  exact ⟨fun inj left listed right listedToo same => (inj left listed right listedToo same).1,
    fun one left listed right listedToo same => ⟨one left listed right listedToo same, same⟩⟩

/-- No name stands in both halves exactly if none is inserted in both. -/
theorem apart_ofInsertions_iff {insertions : List Insertion} :
    (ofInsertions insertions).Apart ↔ OneHalfEach insertions := by
  have entity {name : String} : name ∈ (ofInsertions insertions).entities.names ↔ _ :=
    @mem_names_half_ofInsertions insertions .entity name
  have embeddable {name : String} : name ∈ (ofInsertions insertions).embeddables.names ↔ _ :=
    @mem_names_half_ofInsertions insertions .embeddable name
  simp only [Apart, entity, embeddable]
  constructor
  · intro apart left listed right listedToo same
    cases first : left.role with
    | entity =>
      cases second : right.role with
      | entity => rfl
      | embeddable =>
        exact absurd ⟨right, listedToo, second, same.symm⟩
          (apart left.name ⟨left, listed, first, rfl⟩)
    | embeddable =>
      cases second : right.role with
      | entity =>
        exact absurd ⟨left, listed, first, rfl⟩
          (apart left.name ⟨right, listedToo, second, same.symm⟩)
      | embeddable => rfl
  · rintro one name ⟨left, listed, first, rfl⟩ ⟨right, listedToo, second, same⟩
    have shared := one right listedToo left listed same
    rw [first, second] at shared
    cases shared

/-- The first insertion of a name is found, whatever its half, exactly if no entity overtakes it. -/
theorem finds_first_iff {insertions : List Insertion} {name : String} :
    (ofInsertions insertions).Finds name (first name insertions) ↔ ¬Overtaken name insertions := by
  have found := finds_ofInsertions insertions name
  constructor
  · rintro finds ⟨⟨value, firstly, embeddable⟩, later⟩
    obtain ⟨entity, overtakes⟩ := Option.isSome_iff_exists.mp (isSome_firstIn_iff.mpr later)
    have role := finds.role.symm.trans found.role
    rw [overtakes, Option.some_or, firstly, Option.map_some, Option.map_some, embeddable,
      role_of_firstIn overtakes] at role
    cases role
  · intro kept
    cases entity : firstIn .entity name insertions with
    | none => rwa [entity, Option.none_or] at found
    | some insertion =>
      have later := isSome_firstIn_iff.mp (Option.isSome_of_eq_some entity)
      cases firstly : first name insertions with
      | none =>
        obtain ⟨other, listed, -, same⟩ := later
        exact absurd same (by simpa using List.find?_eq_none.mp firstly other listed)
      | some value =>
        cases role : value.role with
        | entity =>
          have own := firstIn_of_first firstly
          rw [role, entity] at own
          rwa [entity, Option.some_or, own] at found
        | embeddable => exact absurd ⟨⟨value, firstly, role⟩, later⟩ kept

/-- Of a name that is inserted more than once, the first insertion as an entity is found, or else
the first insertion. So the first insertion of a name counts, whatever its half, exactly unless it
is as a value object and the name is inserted as an entity as well. There are as many types as
different names in each half; a name stands in one half only, and there are as many types as
different names, exactly if no name is inserted in both halves. -/
theorem ofInsertions_firstWins_iff (insertions : List Insertion) :
    let registry := ofInsertions insertions
    (∀ name, registry.Finds name
        ((firstIn .entity name insertions).or (first name insertions))) ∧
      (∀ name, registry.Finds name (first name insertions) ↔ ¬Overtaken name insertions) ∧
      registry.size =
        (insertions.map fun insertion => (insertion.role, insertion.name)).dedup.length ∧
      (registry.Apart ↔ OneHalfEach insertions) ∧
      (registry.size = (insertions.map Insertion.name).dedup.length ↔ OneHalfEach insertions) :=
  ⟨finds_ofInsertions insertions, fun _ => finds_first_iff, size_ofInsertions insertions,
    apart_ofInsertions_iff, size_ofInsertions_eq_iff⟩

/-- An address with a city as a value object, and then one with a street as an entity. -/
def addresses : List Insertion :=
  [⟨.embeddable, "Address", ⟨[("city", .single (.named "String"))], List.nodup_singleton _⟩⟩,
    ⟨.entity, "Address", ⟨[("street", .single (.named "String"))], List.nodup_singleton _⟩⟩]

/-- The first insertion of the address is not what is found, and the one name has two entries. -/
theorem addresses_overtaken :
    ¬(ofInsertions addresses).Finds "Address" (first "Address" addresses) ∧
      (first "Address" addresses).map Insertion.role = some .embeddable ∧
      (ofInsertions addresses).role? "Address" = some .entity ∧
      (ofInsertions addresses).field? "Address" "city" = none ∧
      (addresses.map Insertion.name).dedup = ["Address"] ∧ (ofInsertions addresses).size = 2 := by
  have role : (ofInsertions addresses).role? "Address" = some .entity := by decide
  have embeddable : (first "Address" addresses).map Insertion.role = some .embeddable := by decide
  refine ⟨fun finds => ?_, embeddable, role, by decide, by decide, by decide⟩
  have same := finds.role
  rw [role, embeddable] at same
  cases same

end Registry

end SchemaProjection
