import SchemaProjection.Proofs.RecordParts
import SchemaProjection.Proofs.StoredValues
import SchemaProjection.Proofs.WalkedPaths

/-!
# Identifiers and collections

A field that is made by one of the constructors, or that a schema discovers, is an identifier or a
collection or neither, and what it maps makes no difference. A text may describe one that is both:
reading checks each member by itself. So no field is both exactly as long as no text that is read
marks an identifier and describes elements as well (`Field.obtained_apart_iff`).
-/
namespace SchemaProjection

open Json (Partial bind_eq_ok_iff map_eq_ok_iff mapError_eq_ok_iff)

namespace Field

/-- A field is an identifier and a collection. -/
def IsBoth (field : Field) : Prop := field.isIdentifier = true ∧ field.isCollection = true

/-- The ways to come by a field, given the texts that are read. -/
inductive Obtained (reads : String → Prop) : Field → Prop
  /-- A field with one value. -/
  | single (type : TypeExpr) : Obtained reads (.single type)
  /-- An identifier. -/
  | identifier (type : TypeExpr) : Obtained reads (.identifier type)
  /-- A collection. -/
  | many (type : TypeExpr) (element : String) (collection : Collection) :
    Obtained reads (.many type element collection)
  /-- A field that has been obtained, for another component of the identifier. -/
  | mapping {field : Field} (component : Option String) (obtained : Obtained reads field) :
    Obtained reads (field.mapping component)
  /-- A field of a type in a discovered schema. -/
  | discovered (settings : CompilerSettings) (model : Model) (roots : List String) {role : Role}
    {type name : String} {fields : Table Field} {field : Field}
    (registered : (role, type, fields) ∈ (discoverSchema settings model roots).1.types)
    (listed : (name, field) ∈ fields.entries) : Obtained reads field
  /-- A field that is read from a text. -/
  | read {text : String} {field : Field} (given : reads text)
    (read : format.ofJsonText text = .ok field) : Obtained reads field

/-- A text describes a field, marks it as an identifier and describes elements of it. -/
def StatesBoth (text : String) : Prop :=
  let tree := (Partial.ofText text).1
  (∃ field, format.ofJsonText text = .ok field) ∧
    tree.part? "is_identifier" 0 = some (.bool true) ∧
      ∃ elements, tree.part? "collection" 4 = some elements ∧ elements ≠ .null

/-- What a field maps has nothing to do with it. -/
theorem isBoth_mapping_iff (field : Field) (component : Option String) :
    (field.mapping component).IsBoth ↔ field.IsBoth := Iff.rfl

/-- A field with one value is no collection. -/
theorem not_isBoth_single (type : TypeExpr) : ¬(single type).IsBoth := by simp [IsBoth, single]

/-- An identifier is no collection. -/
theorem not_isBoth_identifier (type : TypeExpr) : ¬(identifier type).IsBoth := by
  simp [IsBoth, identifier, isCollection]

/-- A collection is no identifier. -/
theorem not_isBoth_many (type : TypeExpr) (element : String) (collection : Collection) :
    ¬(many type element collection).IsBoth := by simp [IsBoth, many]

/-- Whatever a declared field is marked as and whatever its type is, one of the constructors
describes it. -/
theorem not_isBoth_describe (classifier : Classifier) (declared : FieldDecl) :
    ¬(classifier.describe declared).IsBoth := by
  rw [Classifier.describe]
  dsimp only
  split_ifs
  · exact not_isBoth_identifier _
  · exact not_isBoth_single _
  · exact not_isBoth_many _ _ _
  · exact (isBoth_mapping_iff _ _).not.mpr (not_isBoth_single _)

/-- A discovered field describes a declared one. -/
theorem exists_describe_of_discovered {settings : CompilerSettings} {model : Model}
    {roots : List String} {role : Role} {type name : String} {fields : Table Field} {field : Field}
    (registered : (role, type, fields) ∈ (discoverSchema settings model roots).1.types)
    (listed : (name, field) ∈ fields.entries) :
    ∃ declared, (settings.classifier model).describe declared = field := by
  have found := (discoverSchema_apart settings model roots).mem_types_iff.mp ⟨role, registered⟩
  obtain ⟨-, rfl⟩ := (discoverSchema_lookup_eq_some_iff settings model roots).mp found
  obtain ⟨declared, -, same⟩ := List.mem_map.mp listed
  exact ⟨declared, congrArg Prod.snd same⟩

/-- A mark is read as it stands. -/
theorem readJson_bool_eq_ok_iff {tree : Partial} {value : Bool} :
    Format.bool.readJson tree = .ok value ↔ tree = .bool value := by
  cases tree <;> simp [Format.readJson]

/-- What may be missing is there exactly if it does not stand as `null`. -/
theorem isSome_iff_of_readJson_optional {α : Type} {present : Format α} {tree : Partial}
    {value : Option α} (read : (Format.optional present).readJson tree = .ok value) :
    value.isSome = true ↔ tree ≠ .null := by
  by_cases null : tree = .null
  · subst null
    cases read
    simp
  · rw [Format.readJson_optional_of_ne_null null] at read
    obtain ⟨_, -, rfl⟩ := map_eq_ok_iff.mp read
    simp [null]

/-- A field that is read is both exactly if the text says so. -/
theorem isBoth_iff_statesBoth {text : String} {field : Field}
    (read : format.ofJsonText text = .ok field) : field.IsBoth ↔ StatesBoth text := by
  have wellFormed : ∃ field, format.ofJsonText text = .ok field := ⟨field, read⟩
  obtain ⟨⟨isIdentifier, _, _, _, collection, _⟩, rfl, told⟩ :=
    Format.told_of_record (by decide) (Format.ofJsonText_eq_ok_iff.mp read).1
  obtain ⟨marked, unmarked, -, -, -, -, -, -, described, missing, -⟩ := told
  have identifier : isIdentifier = true ↔
      (Partial.ofText text).1.part? "is_identifier" 0 = some (.bool true) := by
    cases part : (Partial.ofText text).1.part? "is_identifier" 0 with
    | none => cases unmarked part
    | some mark =>
      obtain rfl := readJson_bool_eq_ok_iff.mp (marked mark part)
      simp
  have elements : collection.isSome = true ↔
      ∃ elements, (Partial.ofText text).1.part? "collection" 4 = some elements ∧
        elements ≠ .null := by
    cases part : (Partial.ofText text).1.part? "collection" 4 with
    | none =>
      cases missing part
      simp
    | some elements =>
      simpa using isSome_iff_of_readJson_optional (described elements part)
  exact (and_congr identifier elements).trans (and_iff_right wellFormed).symm

/-- No field that is obtained is an identifier and a collection exactly as long as no text that is
read says that one is. -/
theorem obtained_apart_iff (reads : String → Prop) :
    (∀ field, Obtained reads field → ¬field.IsBoth) ↔ ∀ text, reads text → ¬StatesBoth text := by
  constructor
  · intro apart text given states
    obtain ⟨field, read⟩ := states.1
    exact apart field (.read given read) ((isBoth_iff_statesBoth read).mpr states)
  · intro silent field obtained
    induction obtained with
    | single type => exact not_isBoth_single type
    | identifier type => exact not_isBoth_identifier type
    | many type element collection => exact not_isBoth_many type element collection
    | mapping component _ apart => exact (isBoth_mapping_iff _ component).not.mpr apart
    | discovered settings model roots registered listed =>
      obtain ⟨declared, rfl⟩ := exists_describe_of_discovered registered listed
      exact not_isBoth_describe _ declared
    | read given read => exact (isBoth_iff_statesBoth read).not.mpr (silent _ given)

/-- A list of orders that is marked as an identifier. -/
def orderKeys : Field :=
  ⟨true, "Order", .generic "List" [.named "Order"], none, some ⟨.entityLike, .list, none, none⟩⟩

/-- The reference that is an identifier and a collection is read from the text that is written of
it. -/
theorem orderKeys_isBoth :
    Obtained (· = format.jsonText orderKeys) orderKeys ∧ orderKeys.isIdentifier = true ∧
      orderKeys.isCollection = true := by
  have type : TypeExpr.format.readJson (.text (some orderKeys.declaredType.text)) =
      .ok orderKeys.declaredType := by
    have named : ∀ name ∈ orderKeys.declaredType.names, TypeExpr.IsName name.toList := by
      change ∀ name ∈ ["List", "Order"], TypeExpr.IsName name.toList
      rw [List.forall_mem_cons, List.forall_mem_singleton]
      exact ⟨⟨by decide, List.all_eq_true.mp rfl⟩, by decide, List.all_eq_true.mp rfl⟩
    simp only [TypeExpr.format, Format.readJson, bind_eq_ok_iff, mapError_eq_ok_iff]
    exact ⟨_, rfl, TypeExpr.parse_text_eq_ok_iff.mpr named⟩
  have row : format.readJson (.array [.bool true, .text (some "Order"),
      .text (some orderKeys.declaredType.text), .null,
      .object [(.text (some "kind"), .text (some "entity_like")),
        (.text (some "container"), .text (some "list"))] true] true) = .ok orderKeys := by
    simp only [format, Format.readJson, Fields.required, Fields.maybe, Fields.readJsonRow, type]
    rfl
  exact ⟨.read rfl (format_lossless _ _ row).ofJsonText, rfl, rfl⟩

end Field

end SchemaProjection
