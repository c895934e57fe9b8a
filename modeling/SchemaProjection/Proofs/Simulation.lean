import Mathlib.Data.List.Forall2
import SchemaProjection.Proofs.Reachability

/-!
# Discoveries in step

Two classifiers that give every name the same role, the same findings and related fields make
the same steps when they visit the same names: they see the same types in the same order, report
the same findings, and register related fields. The relation on fields is a parameter. With
equality two models are seen to have the same schema, and with a coarser relation two settings
are seen to differ in the described fields only.
-/
namespace SchemaProjection

/-- Related lists have the same image where related members have the same one. -/
theorem map_eq_of_forall₂ {α β γ : Type} {relation : α → β → Prop} {image : α → γ}
    {otherImage : β → γ} (same : ∀ first second, relation first second →
      image first = otherImage second) {left : List α} {right : List β}
    (related : List.Forall₂ relation left right) : left.map image = right.map otherImage := by
  rw [← List.forall₂_eq_eq_eq, List.forall₂_map_left_iff, List.forall₂_map_right_iff]
  exact related.imp same

/-- What members have alike, they add alike to the results of a list. -/
theorem filterMap_related {α β γ : Type} {relation : β → γ → Prop} {part : α → Option β}
    {otherPart : α → Option γ} (alike : ∀ member, Option.Rel relation (part member)
      (otherPart member)) (members : List α) :
    List.Forall₂ relation (members.filterMap part) (members.filterMap otherPart) := by
  have same : List.Forall₂ Eq members members := List.forall₂_same.mpr fun _ _ => rfl
  refine List.rel_filterMap (fun member other equal => ?_) same
  rw [← equal]
  exact alike member

/-- Lists that members have alike are related when they are put together. -/
theorem flatMap_related {α β γ : Type} {relation : β → γ → Prop} {parts : α → List β}
    {otherParts : α → List γ} (alike : ∀ member, List.Forall₂ relation (parts member)
      (otherParts member)) (members : List α) :
    List.Forall₂ relation (members.flatMap parts) (members.flatMap otherParts) := by
  have same : List.Forall₂ Eq members members := List.forall₂_same.mpr fun _ _ => rfl
  refine List.rel_flatMap same (fun member other equal => ?_)
  rw [← equal]
  exact alike member

/-- Of two related options both hold a value or none does. -/
theorem isSome_eq_of_rel {α β : Type} {relation : α → β → Prop} {first : Option α}
    {second : Option β} (related : Option.Rel relation first second) :
    first.isSome = second.isSome := by
  cases related <;> rfl

namespace Table

variable {α β : Type} {relation : α → β → Prop}

/-- Two tables hold the same names in the same order, each with related values. -/
def Related (relation : α → β → Prop) (left : Table α) (right : Table β) : Prop :=
  List.Forall₂ (fun first second => first.1 = second.1 ∧ relation first.2 second.2)
    left.entries right.entries

/-- Related tables hold the same names in the same order. -/
theorem Related.names_eq {left : Table α} {right : Table β}
    (related : left.Related relation right) : left.names = right.names :=
  map_eq_of_forall₂ (fun _ _ same => same.1) related

/-- Related tables hold related values under every name, or none. -/
theorem Related.find? {left : Table α} {right : Table β} (related : left.Related relation right)
    (name : String) : Option.Rel relation (left.find? name) (right.find? name) := by
  obtain ⟨entries, _⟩ := left
  obtain ⟨others, _⟩ := right
  change List.Forall₂ _ entries others at related
  change Option.Rel relation (entries.lookup name) (others.lookup name)
  clear * - related
  induction related with
  | nil => exact .none
  | @cons first second _ _ same _ ih =>
    rw [List.lookup_cons, List.lookup_cons, ← same.1]
    cases name == first.1 with
    | true => exact .some same.2
    | false => exact ih

/-- Adding related values under one name keeps tables related. -/
theorem Related.add {left : Table α} {right : Table β} (related : left.Related relation right)
    {first : α} {second : β} (name : String) (values : relation first second) :
    (left.add name first).Related relation (right.add name second) := by
  by_cases held : name ∈ left.names
  · rwa [add_of_mem held, add_of_mem (related.names_eq ▸ held)]
  · have freshRight : name ∉ right.names := related.names_eq ▸ held
    rw [Related, entries_add held, entries_add freshRight]
    exact List.rel_append related (.cons ⟨rfl, values⟩ .nil)

/-- Tables with equal values under the same names are equal. -/
theorem Related.eq {left right : Table α} (related : left.Related Eq right) : left = right := by
  apply eq_of_entries
  rw [← List.forall₂_eq_eq_eq]
  exact related.imp fun _ _ same => Prod.ext same.1 same.2

/-- A coarser relation relates more tables. -/
theorem Related.imp {coarser : α → β → Prop} {left : Table α} {right : Table β}
    (related : left.Related relation right)
    (implied : ∀ first second, relation first second → coarser first second) :
    left.Related coarser right :=
  List.Forall₂.imp (fun _ _ same => ⟨same.1, implied _ _ same.2⟩) related

end Table

namespace Registry

/-- Two registries hold the same types in the same order, with related fields. -/
structure Related (relation : Field → Field → Prop) (left right : Registry) : Prop where
  /-- The entities are related. -/
  entities : left.entities.Related (Table.Related relation) right.entities
  /-- The value objects are related. -/
  embeddables : left.embeddables.Related (Table.Related relation) right.embeddables

variable {relation : Field → Field → Prop} {left right : Registry}

/-- Nothing is registered alike. -/
theorem related_empty : empty.Related relation empty := ⟨.nil, .nil⟩

/-- Adding related fields of one type keeps registries related. -/
theorem Related.add (related : left.Related relation right) {first second : Table Field}
    (role : Role) (name : String) (fields : first.Related relation second) :
    (left.add role name first).Related relation (right.add role name second) := by
  cases role with
  | entity => exact ⟨related.entities.add name fields, related.embeddables⟩
  | embeddable => exact ⟨related.entities, related.embeddables.add name fields⟩

/-- Where each half holds related fields under a name, or none, so does a lookup of the name. -/
theorem lookup_rel {alike : Table Field → Table Field → Prop} {name : String}
    (entities : Option.Rel alike (left.entities.find? name) (right.entities.find? name))
    (embeddables : Option.Rel alike (left.embeddables.find? name)
      (right.embeddables.find? name)) :
    Option.Rel alike (left.lookup name) (right.lookup name) := by
  rw [lookup, lookup]
  generalize left.entities.find? name = entity, right.entities.find? name = otherEntity at entities
  cases entities with
  | some fields => exact .some fields
  | none => exact embeddables

/-- In related registries a lookup finds related fields, or none. -/
theorem Related.lookup (related : left.Related relation right) (name : String) :
    Option.Rel (Table.Related relation) (left.lookup name) (right.lookup name) :=
  lookup_rel (related.entities.find? name) (related.embeddables.find? name)

/-- Related registries contain the same types. -/
theorem Related.contains_eq (related : left.Related relation right) (name : String) :
    left.contains name = right.contains name :=
  isSome_eq_of_rel (related.lookup name)

/-- Registries with equal fields of the same types are equal. -/
theorem Related.eq (related : left.Related Eq right) : left = right := by
  obtain ⟨entities, embeddables⟩ := left
  obtain ⟨otherEntities, otherEmbeddables⟩ := right
  obtain ⟨sameEntities, sameEmbeddables⟩ := related
  obtain rfl := (sameEntities.imp fun _ _ fields => fields.eq).eq
  obtain rfl := (sameEmbeddables.imp fun _ _ fields => fields.eq).eq
  rfl

end Registry

namespace Classifier

/-- Two classifiers make the same steps: roles, findings, and what fields lead to agree, and the
fields of every type are related. -/
structure InStep (relation : Field → Field → Prop) (left right : Classifier) : Prop where
  /-- Every name has the same role. -/
  roles : ∀ name, (left.kindOf name).role? = (right.kindOf name).role?
  /-- Every type has related fields. -/
  fields : ∀ name, (left.fieldsOf name).Related relation (right.fieldsOf name)
  /-- Related fields lead to the same type. -/
  targets : ∀ first second, relation first second → first.relatedType = second.relatedType
  /-- The findings on every type are the same. -/
  findings : ∀ role name, left.findingsOf role name = right.findingsOf role name

variable {relation : Field → Field → Prop} {left right : Classifier}

/-- Schema types are those with a role. -/
theorem isSchemaType_eq_isSome_role? (classifier : Classifier) (name : String) :
    (classifier.kindOf name).isSchemaType = (classifier.kindOf name).role?.isSome := by
  cases classifier.kindOf name <;> rfl

/-- Types lead to the same schema types. -/
theorem InStep.relatedTypes (inStep : left.InStep relation right) (name : String) :
    left.relatedTypes name = right.relatedTypes name := by
  have targets : (left.fieldsOf name).entries.map (fun entry => entry.2.relatedType) =
      (right.fieldsOf name).entries.map fun entry => entry.2.relatedType :=
    map_eq_of_forall₂ (fun _ _ same => inStep.targets _ _ same.2) (inStep.fields name)
  simp only [Classifier.relatedTypes, targets, isSchemaType_eq_isSome_role?, inStep.roles]

/-- Where names have the same roles, types the same persistent fields and composite identifiers,
and a field is described by related ones, two classifiers are in step. -/
theorem inStep_of_describe_related
    (roles : ∀ name, (left.kindOf name).role? = (right.kindOf name).role?)
    (persistent : ∀ name, left.model.persistentFields name = right.model.persistentFields name)
    (composites : ∀ name, left.hasComposite name = right.hasComposite name)
    (described : ∀ field, relation (left.describe field) (right.describe field))
    (targets : ∀ first second, relation first second → first.relatedType = second.relatedType)
    (identifiers : ∀ first second, relation first second →
      first.isIdentifier = second.isIdentifier) :
    left.InStep relation right := by
  have fields (name : String) : (left.fieldsOf name).Related relation (right.fieldsOf name) := by
    change List.Forall₂ _ ((left.model.persistentFields name).map _)
      ((right.model.persistentFields name).map _)
    rw [← persistent, List.forall₂_map_left_iff, List.forall₂_map_right_iff]
    exact List.forall₂_same.mpr fun field _ => ⟨rfl, described field⟩
  have embeddable (name : String) :
      left.kindOf name = .embeddableLike ↔ right.kindOf name = .embeddableLike := by
    rw [← Kind.role?_eq_embeddable_iff, roles, Kind.role?_eq_embeddable_iff]
  have embedding : left.embeddingFinding? = right.embeddingFinding? := by
    funext owner field
    simp only [embeddingFinding?, bne, beq_eq_decide, embeddable]
  have identified (name : String) : left.identifiersOf name = right.identifiersOf name := by
    have kept := List.rel_filter (p := fun entry => entry.2.isIdentifier)
      (q := fun entry => entry.2.isIdentifier)
      (fun _ _ same => Bool.eq_iff_iff.mp (identifiers _ _ same.2)) (fields name)
    exact map_eq_of_forall₂ (fun _ _ same => same.1) kept
  refine ⟨roles, fields, targets, fun role name => ?_⟩
  rw [findingsOf, findingsOf, persistent, embedding, identifierFinding?, identifierFinding?,
    identified, composites]

/-- Visits of the same names see the same types, report the same findings, and keep registries
related. -/
theorem InStep.visit (inStep : left.InStep relation right) {discovery other : Discovery}
    (seen : discovery.seen = other.seen)
    (registries : discovery.registry.Related relation other.registry) (waiting : List String) :
    (left.visit discovery waiting).1.seen = (right.visit other waiting).1.seen ∧
      (left.visit discovery waiting).1.registry.Related relation
        (right.visit other waiting).1.registry ∧
      (left.visit discovery waiting).2 = (right.visit other waiting).2 := by
  induction discovery, waiting using visit_induction left generalizing other with
  | done discovery =>
    rw [Classifier.visit, Classifier.visit]
    exact ⟨seen, registries, rfl⟩
  | passes discovery name rest passed ih =>
    have passedRight : name ∈ other.seen ∨ ¬right.IsSchemaType name := by
      rwa [← seen, ← role?_eq_none_iff, ← inStep.roles, role?_eq_none_iff]
    rw [visit_passed rest passed, visit_passed rest passedRight]
    exact ih seen registries
  | takes discovery name rest role fresh taken ih =>
    have nowSeen : (left.takeUp discovery role name).seen = (right.takeUp other role name).seen :=
      congrArg (name :: ·) seen
    have nowWaiting : left.newlyRelated discovery name = right.newlyRelated other name := by
      simp only [newlyRelated, inStep.relatedTypes, Discovery.isSeen, Discovery.see, seen]
    have registered := registries.add role name (inStep.fields name)
    rw [visit_fresh rest fresh taken,
      visit_fresh rest (seen ▸ fresh) ((inStep.roles name).symm.trans taken), ← nowWaiting,
      inStep.findings]
    obtain ⟨seenAfter, registriesAfter, findingsAfter⟩ := ih nowSeen registered
    exact ⟨seenAfter, registriesAfter, congrArg (right.findingsOf role name ++ ·) findingsAfter⟩

/-- Discoveries from the same roots register related fields and report the same findings. -/
theorem InStep.discoverAll (inStep : left.InStep relation right) {discovery other : Discovery}
    (seen : discovery.seen = other.seen)
    (registries : discovery.registry.Related relation other.registry) (roots : List String) :
    (left.discoverAll discovery roots).1.registry.Related relation
        (right.discoverAll other roots).1.registry ∧
      (left.discoverAll discovery roots).2 = (right.discoverAll other roots).2 := by
  induction roots generalizing discovery other with
  | nil => exact ⟨registries, rfl⟩
  | cons root rest ih =>
    obtain ⟨seenAfter, registriesAfter, findings⟩ := inStep.visit seen registries [root]
    obtain ⟨registered, later⟩ := ih seenAfter registriesAfter
    exact ⟨registered, congrArg₂ _ findings later⟩

end Classifier

/-- Settings and models whose classifiers are in step have related schemas and the same
findings. -/
theorem discoverSchema_related {relation : Field → Field → Prop}
    (settings otherSettings : CompilerSettings) {model otherModel : Model}
    (inStep : (settings.classifier model).InStep relation (otherSettings.classifier otherModel))
    (roots : List String) :
    (discoverSchema settings model roots).1.Related relation
        (discoverSchema otherSettings otherModel roots).1 ∧
      (discoverSchema settings model roots).2 =
        (discoverSchema otherSettings otherModel roots).2 :=
  inStep.discoverAll rfl Registry.related_empty roots

end SchemaProjection
