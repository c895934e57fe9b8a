import Mathlib.Logic.Relation
import SchemaProjection.Compilation
import SchemaProjection.Proofs.Table

/-!
# Discovered types are the reachable ones

A schema type leads to the schema types that its effective persistent fields are related to.
Discovery takes up one waiting name after the other; `visit_preserves` carries what each such
step keeps over a whole visit, and every law of a visit follows from a law of one step. The two
invariants are that the registry lists what has been seen, each type with its own fields in the
half of its kind (`Faithful`), and that whatever a seen type leads to has been seen or waits
(`Covers`). When nothing waits, the seen types are therefore the reachable ones, in whatever
circles the types refer to each other.
-/
namespace SchemaProjection

namespace Kind

/-- The kinds without a role are those of types without fields of their own. -/
theorem role?_eq_none_iff {kind : Kind} :
    kind.role? = none ↔ ¬(kind = .entityLike ∨ kind = .embeddableLike) := by
  cases kind <;> simp [role?]

/-- The role of an entity belongs to one kind. -/
theorem role?_eq_entity_iff {kind : Kind} : kind.role? = some .entity ↔ kind = .entityLike := by
  cases kind <;> simp [role?]

/-- The role of a value object belongs to one kind. -/
theorem role?_eq_embeddable_iff {kind : Kind} :
    kind.role? = some .embeddable ↔ kind = .embeddableLike := by
  cases kind <;> simp [role?]

end Kind

namespace Classifier

/-- The name of an entity or of a value object. -/
def IsSchemaType (classifier : Classifier) (name : String) : Prop :=
  classifier.kindOf name = .entityLike ∨ classifier.kindOf name = .embeddableLike

/-- A type has an effective persistent field that is related to a schema type. -/
def LeadsTo (classifier : Classifier) (name related : String) : Prop :=
  classifier.IsSchemaType related ∧
    ∃ field ∈ classifier.model.persistentFields name,
      (classifier.describe field).relatedType = related

/-- A schema type among the roots, or one to which a chain of fields leads from such a root over
schema types. -/
def Reachable (classifier : Classifier) (roots : List String) (name : String) : Prop :=
  ∃ root ∈ roots, classifier.IsSchemaType root ∧
    Relation.ReflTransGen classifier.LeadsTo root name

variable {classifier : Classifier}

/-- A name of a schema type in terms of the test on kinds. -/
theorem isSchemaType_iff {name : String} :
    (classifier.kindOf name).isSchemaType = true ↔ classifier.IsSchemaType name := by
  rw [IsSchemaType]
  cases classifier.kindOf name <;> simp [Kind.isSchemaType]

/-- A name without a role is no schema type, and conversely. -/
theorem role?_eq_none_iff {name : String} :
    (classifier.kindOf name).role? = none ↔ ¬classifier.IsSchemaType name :=
  Kind.role?_eq_none_iff

/-- A name with a role is a schema type. -/
theorem isSchemaType_of_role? {name : String} {role : Role}
    (taken : (classifier.kindOf name).role? = some role) : classifier.IsSchemaType name := by
  by_contra other
  rw [role?_eq_none_iff.mpr other] at taken
  cases taken

/-- A schema type is declared and marked as an entity or as a value object. -/
theorem IsSchemaType.marked {name : String} (schemaType : classifier.IsSchemaType name) :
    ∃ decl, classifier.model.lookup name = some decl ∧
      (decl.isEntity = true ∨ decl.isEmbeddable = true) := by
  obtain ⟨decl, found⟩ := isSchemaType_declared (isSchemaType_iff.mpr schemaType)
  refine ⟨decl, found, ?_⟩
  cases entity : decl.isEntity with
  | true => exact .inl rfl
  | false =>
    cases embeddable : decl.isEmbeddable with
    | true => exact .inr rfl
    | false =>
      simp only [IsSchemaType, kindOf, found, entity, embeddable] at schemaType
      cases enumeration : decl.isEnum <;> cases scalar : classifier.isScalarName name <;>
        simp [undeclaredKind, enumeration, scalar] at schemaType

/-- The related types of a type are the schema types that it leads to. -/
theorem mem_relatedTypes {name related : String} :
    related ∈ classifier.relatedTypes name ↔ classifier.LeadsTo name related := by
  simp only [relatedTypes, fieldsOf, LeadsTo, List.mem_filter, List.map_map, List.mem_map,
    Function.comp_apply, isSchemaType_iff, and_comm]

/-- A name that has been seen or that is no schema type is passed over. -/
theorem turn_passed {discovery : Discovery} {name : String} (rest : List String)
    (passed : name ∈ discovery.seen ∨ ¬classifier.IsSchemaType name) :
    classifier.turn discovery name rest = (⟨discovery, rest⟩, []) := by
  rw [turn]
  split
  next => rfl
  next fresh =>
    have other : ¬classifier.IsSchemaType name :=
      passed.resolve_left (mt Discovery.isSeen_iff.mpr fresh)
    rw [role?_eq_none_iff.mpr other]

/-- A schema type that has not been seen is taken up, and what it leads to waits behind the
names that wait already. -/
theorem turn_fresh {discovery : Discovery} {name : String} {role : Role} (rest : List String)
    (fresh : name ∉ discovery.seen) (taken : (classifier.kindOf name).role? = some role) :
    classifier.turn discovery name rest =
      (⟨classifier.takeUp discovery role name, rest ++ classifier.newlyRelated discovery name⟩,
        classifier.findingsOf role name) := by
  rw [turn, if_neg (mt Discovery.isSeen_iff.mp fresh), taken]

/-- A visit goes on behind a name that is passed over as if the name had not waited. -/
theorem visit_passed {discovery : Discovery} {name : String} (rest : List String)
    (passed : name ∈ discovery.seen ∨ ¬classifier.IsSchemaType name) :
    classifier.visit discovery (name :: rest) = classifier.visit discovery rest := by
  rw [visit, turn_passed rest passed]
  rfl

/-- A visit goes on behind a name that is taken up with what that leads to, and the findings on the
name come before the others. -/
theorem visit_fresh {discovery : Discovery} {name : String} {role : Role} (rest : List String)
    (fresh : name ∉ discovery.seen) (taken : (classifier.kindOf name).role? = some role) :
    classifier.visit discovery (name :: rest) =
      ((classifier.visit (classifier.takeUp discovery role name)
          (rest ++ classifier.newlyRelated discovery name)).1,
        classifier.findingsOf role name ++
          (classifier.visit (classifier.takeUp discovery role name)
            (rest ++ classifier.newlyRelated discovery name)).2) := by
  rw [visit, turn_fresh rest fresh taken]

/-- A property of visits holds when it holds where nothing waits and is handed back over each
step. -/
theorem visit_induction (classifier : Classifier) {motive : Discovery → List String → Prop}
    (done : ∀ discovery, motive discovery [])
    (passes : ∀ discovery name rest,
      (name ∈ discovery.seen ∨ ¬classifier.IsSchemaType name) →
        motive discovery rest → motive discovery (name :: rest))
    (takes : ∀ discovery name rest role, name ∉ discovery.seen →
      (classifier.kindOf name).role? = some role →
        motive (classifier.takeUp discovery role name)
          (rest ++ classifier.newlyRelated discovery name) →
        motive discovery (name :: rest))
    (discovery : Discovery) (waiting : List String) : motive discovery waiting := by
  induction discovery, waiting using visit.induct classifier with
  | case1 discovery => exact done discovery
  | case2 discovery name rest next ih =>
    by_cases known : name ∈ discovery.seen
    · rw [show next = _ from turn_passed rest (.inl known)] at ih
      exact passes discovery name rest (.inl known) ih
    · cases taken : (classifier.kindOf name).role? with
      | none =>
        have other := role?_eq_none_iff.mp taken
        rw [show next = _ from turn_passed rest (.inr other)] at ih
        exact passes discovery name rest (.inr other) ih
      | some role =>
        rw [show next = _ from turn_fresh rest known taken] at ih
        exact takes discovery name rest role known taken ih

/-- What every step of a visit keeps, the whole visit keeps. -/
theorem visit_preserves (keeps : Discovery → List String → Prop)
    (passes : ∀ discovery name rest,
      (name ∈ discovery.seen ∨ ¬classifier.IsSchemaType name) →
        keeps discovery (name :: rest) → keeps discovery rest)
    (takes : ∀ discovery name rest role, name ∉ discovery.seen →
      (classifier.kindOf name).role? = some role → keeps discovery (name :: rest) →
        keeps (classifier.takeUp discovery role name)
          (rest ++ classifier.newlyRelated discovery name))
    {discovery : Discovery} {waiting : List String} (start : keeps discovery waiting) :
    keeps (classifier.visit discovery waiting).1 [] := by
  induction discovery, waiting using visit_induction classifier with
  | done discovery => rwa [visit]
  | passes discovery name rest passed ih =>
    rw [visit_passed rest passed]
    exact ih (passes discovery name rest passed start)
  | takes discovery name rest role fresh taken ih =>
    rw [visit_fresh rest fresh taken]
    exact ih (takes discovery name rest role fresh taken start)

/-- The names of a kind with their fields, the name that came last at the end. -/
def entriesOf (classifier : Classifier) (kind : Kind) (names : List String) :
    List (String × Table Field) :=
  (names.reverse.filter fun name => classifier.kindOf name = kind).map fun name =>
    (name, classifier.fieldsOf name)

/-- The registry lists what has been seen, each type with its own fields in the half of its
kind. -/
structure Faithful (classifier : Classifier) (discovery : Discovery) : Prop where
  /-- Only schema types are seen. -/
  schemaTypes : ∀ name ∈ discovery.seen, classifier.IsSchemaType name
  /-- Every name is seen once. -/
  unique : discovery.seen.Nodup
  /-- The entities stand in the order in which they were seen. -/
  entities : discovery.registry.entities.entries =
    classifier.entriesOf .entityLike discovery.seen
  /-- The value objects stand in the order in which they were seen. -/
  embeddables : discovery.registry.embeddables.entries =
    classifier.entriesOf .embeddableLike discovery.seen

/-- One more name adds its fields at the end, if it is of the kind. -/
theorem entriesOf_cons (kind : Kind) (name : String) (names : List String) :
    classifier.entriesOf kind (name :: names) = classifier.entriesOf kind names ++
      if classifier.kindOf name = kind then [(name, classifier.fieldsOf name)] else [] := by
  by_cases same : classifier.kindOf name = kind <;> simp [entriesOf, same]

/-- A name that has not been seen does not stand in a half that lists what has been seen. -/
theorem not_mem_names_of_entriesOf {table : Table (Table Field)} {kind : Kind} {name : String}
    {seen : List String} (entries : table.entries = classifier.entriesOf kind seen)
    (fresh : name ∉ seen) : name ∉ table.names := by
  rw [Table.names, entries, entriesOf, List.map_map]
  intro held
  obtain ⟨other, kept, rfl⟩ := List.mem_map.mp held
  exact fresh (List.mem_reverse.mp (List.mem_of_mem_filter kept))

/-- Nothing seen is listed by nothing registered. -/
theorem faithful_empty : classifier.Faithful .empty :=
  ⟨by simp [Discovery.empty], List.nodup_nil, rfl, rfl⟩

/-- Taking up a schema type keeps the registry a list of what has been seen. -/
theorem Faithful.takeUp {discovery : Discovery} {name : String} {role : Role}
    (faithful : classifier.Faithful discovery) (fresh : name ∉ discovery.seen)
    (taken : (classifier.kindOf name).role? = some role) :
    classifier.Faithful (classifier.takeUp discovery role name) where
  schemaTypes other held := by
    rcases List.mem_cons.mp held with rfl | before
    · exact isSchemaType_of_role? taken
    · exact faithful.schemaTypes other before
  unique := List.nodup_cons.mpr ⟨fresh, faithful.unique⟩
  entities := by
    change _ = classifier.entriesOf .entityLike (name :: discovery.seen)
    rw [entriesOf_cons, ← faithful.entities]
    cases role with
    | entity =>
      rw [if_pos (Kind.role?_eq_entity_iff.mp taken)]
      exact Table.entries_add (not_mem_names_of_entriesOf faithful.entities fresh) _
    | embeddable =>
      rw [if_neg (by rw [Kind.role?_eq_embeddable_iff.mp taken]; decide), List.append_nil]
      rfl
  embeddables := by
    change _ = classifier.entriesOf .embeddableLike (name :: discovery.seen)
    rw [entriesOf_cons, ← faithful.embeddables]
    cases role with
    | entity =>
      rw [if_neg (by rw [Kind.role?_eq_entity_iff.mp taken]; decide), List.append_nil]
      rfl
    | embeddable =>
      rw [if_pos (Kind.role?_eq_embeddable_iff.mp taken)]
      exact Table.entries_add (not_mem_names_of_entriesOf faithful.embeddables fresh) _

/-- A half that lists what has been seen holds a type exactly when the type is of its kind. -/
theorem find?_of_entriesOf {table : Table (Table Field)} {kind : Kind} {seen : List String}
    (entries : table.entries = classifier.entriesOf kind seen) {name : String}
    {fields : Table Field} :
    table.find? name = some fields ↔
      name ∈ seen ∧ classifier.kindOf name = kind ∧ fields = classifier.fieldsOf name := by
  rw [Table.find?_of_entries_map entries]
  simp [and_assoc, eq_comm]

/-- A lookup finds the fields of exactly the types that have been seen. -/
theorem Faithful.lookup {discovery : Discovery} (faithful : classifier.Faithful discovery)
    (name : String) :
    discovery.registry.lookup name =
      if name ∈ discovery.seen then some (classifier.fieldsOf name) else none := by
  rw [Registry.lookup, Table.find?_of_entries_map faithful.entities,
    Table.find?_of_entries_map faithful.embeddables]
  by_cases held : name ∈ discovery.seen
  · rcases faithful.schemaTypes name held with kind | kind <;> simp [held, kind]
  · simp [held]

/-- A name that has been seen or waits. -/
def Noticed (discovery : Discovery) (waiting : List String) (name : String) : Prop :=
  name ∈ discovery.seen ∨ name ∈ waiting

/-- Whatever a seen type leads to has been seen or waits. -/
def Covers (classifier : Classifier) (discovery : Discovery) (waiting : List String) : Prop :=
  ∀ name ∈ discovery.seen, ∀ related, classifier.LeadsTo name related →
    Noticed discovery waiting related

/-- A schema type does not go unnoticed when a name is passed over. -/
theorem Noticed.pass {discovery : Discovery} {name other : String} {rest : List String}
    (passed : name ∈ discovery.seen ∨ ¬classifier.IsSchemaType name)
    (schemaType : classifier.IsSchemaType other)
    (noticed : Noticed discovery (name :: rest) other) : Noticed discovery rest other := by
  rcases noticed with seen | waits
  · exact .inl seen
  · rcases List.mem_cons.mp waits with rfl | later
    · exact .inl (passed.resolve_right (not_not_intro schemaType))
    · exact .inr later

/-- No name goes unnoticed when a name is taken up. -/
theorem Noticed.takeUp {discovery : Discovery} {name other : String} {rest : List String}
    {role : Role} (noticed : Noticed discovery (name :: rest) other) :
    Noticed (classifier.takeUp discovery role name)
      (rest ++ classifier.newlyRelated discovery name) other := by
  rcases noticed with seen | waits
  · exact .inl (List.mem_cons_of_mem _ seen)
  · rcases List.mem_cons.mp waits with rfl | later
    · exact .inl List.mem_cons_self
    · exact .inr (List.mem_append_left _ later)

/-- What a name leads to is noticed when the name is taken up. -/
theorem noticed_of_leadsTo {discovery : Discovery} {name related : String} {role : Role}
    (rest : List String) (leads : classifier.LeadsTo name related) :
    Noticed (classifier.takeUp discovery role name)
      (rest ++ classifier.newlyRelated discovery name) related := by
  by_cases seen : related ∈ (discovery.see name).seen
  · exact .inl seen
  · refine .inr (List.mem_append_right _ (List.mem_filter.mpr ⟨mem_relatedTypes.mpr leads, ?_⟩))
    simpa [Discovery.isSeen] using seen

/-- A visit keeps the registry a list of what has been seen. -/
theorem Faithful.visit {discovery : Discovery} (faithful : classifier.Faithful discovery)
    (waiting : List String) : classifier.Faithful (classifier.visit discovery waiting).1 :=
  visit_preserves (fun discovery _ => classifier.Faithful discovery)
    (fun _ _ _ _ faithful => faithful)
    (fun _ _ _ _ fresh taken faithful => faithful.takeUp fresh taken) faithful

/-- A visit sees every schema type that has been seen or waits at its beginning. -/
theorem visit_sees {discovery : Discovery} {waiting : List String} {name : String}
    (schemaType : classifier.IsSchemaType name) (noticed : Noticed discovery waiting name) :
    name ∈ (classifier.visit discovery waiting).1.seen := by
  have kept : Noticed (classifier.visit discovery waiting).1 [] name :=
    visit_preserves (fun discovery waiting => Noticed discovery waiting name)
      (fun _ _ _ passed noticed => noticed.pass passed schemaType)
      (fun _ _ _ _ _ _ noticed => noticed.takeUp) noticed
  simpa [Noticed] using kept

/-- What seen types lead to does not go unnoticed when a name is passed over. -/
theorem Covers.pass {discovery : Discovery} {name : String} {rest : List String}
    (covers : classifier.Covers discovery (name :: rest))
    (passed : name ∈ discovery.seen ∨ ¬classifier.IsSchemaType name) :
    classifier.Covers discovery rest := fun seen held related leads =>
  (covers seen held related leads).pass passed leads.1

/-- What seen types lead to does not go unnoticed when a name is taken up. -/
theorem Covers.takeUp {discovery : Discovery} {name : String} {rest : List String} {role : Role}
    (covers : classifier.Covers discovery (name :: rest)) :
    classifier.Covers (classifier.takeUp discovery role name)
      (rest ++ classifier.newlyRelated discovery name) := by
  intro seen held related leads
  rcases List.mem_cons.mp held with rfl | before
  · exact noticed_of_leadsTo rest leads
  · exact (covers seen before related leads).takeUp

/-- After a visit every seen type leads to seen types only. -/
theorem Covers.visit {discovery : Discovery} {waiting : List String}
    (covers : classifier.Covers discovery waiting) :
    classifier.Covers (classifier.visit discovery waiting).1 [] :=
  visit_preserves classifier.Covers (fun _ _ _ passed covers => covers.pass passed)
    (fun _ _ _ _ _ _ covers => covers.takeUp) covers

/-- A visit sees nothing new outside a property that the waiting schema types have and that is
handed on to what a type leads to. -/
theorem visit_sees_only (holds : String → Prop)
    (handsOn : ∀ name related, holds name → classifier.LeadsTo name related → holds related)
    {discovery : Discovery} {waiting : List String}
    (start : ∀ name ∈ waiting, classifier.IsSchemaType name → holds name) :
    ∀ name ∈ (classifier.visit discovery waiting).1.seen, name ∈ discovery.seen ∨ holds name := by
  -- Names are taken up from those that wait, so the invariant speaks of these as well.
  let keeps (later : Discovery) (waiting : List String) : Prop :=
    (∀ name ∈ later.seen, name ∈ discovery.seen ∨ holds name) ∧
      ∀ name ∈ waiting, classifier.IsSchemaType name → holds name
  have kept : keeps (classifier.visit discovery waiting).1 [] := by
    refine visit_preserves keeps ?_ ?_ ⟨fun _ => .inl, start⟩
    · intro later name rest passed kept
      exact ⟨kept.1, fun other waits => kept.2 other (List.mem_cons_of_mem _ waits)⟩
    · intro later name rest role fresh taken kept
      have taken : holds name := kept.2 name List.mem_cons_self (isSchemaType_of_role? taken)
      constructor
      · intro other held
        rcases List.mem_cons.mp held with rfl | before
        · exact .inr taken
        · exact kept.1 other before
      · intro other waits schemaType
        rcases List.mem_append.mp waits with before | added
        · exact kept.2 other (List.mem_cons_of_mem _ before) schemaType
        · exact handsOn name other taken (mem_relatedTypes.mp (List.mem_of_mem_filter added))
  exact kept.1

/-- A root that is a schema type is reachable. -/
theorem reachable_root {roots : List String} {root : String} (listed : root ∈ roots)
    (schemaType : classifier.IsSchemaType root) : classifier.Reachable roots root :=
  ⟨root, listed, schemaType, .refl⟩

/-- What a reachable type leads to is reachable. -/
theorem Reachable.step {roots : List String} {name related : String}
    (reachable : classifier.Reachable roots name) (leads : classifier.LeadsTo name related) :
    classifier.Reachable roots related := by
  obtain ⟨root, listed, schemaType, chain⟩ := reachable
  exact ⟨root, listed, schemaType, chain.tail leads⟩

/-- Reachable types are schema types. -/
theorem Reachable.isSchemaType {roots : List String} {name : String}
    (reachable : classifier.Reachable roots name) : classifier.IsSchemaType name := by
  obtain ⟨root, -, schemaType, chain⟩ := reachable
  cases chain with
  | refl => exact schemaType
  | tail _ leads => exact leads.1

/-- Reachability does not get lost when there are more roots. -/
theorem Reachable.mono {roots more : List String} {name : String} (included : roots ⊆ more)
    (reachable : classifier.Reachable roots name) : classifier.Reachable more name := by
  obtain ⟨root, listed, rest⟩ := reachable
  exact ⟨root, included listed, rest⟩

/-- A type is reachable from one root or from the others. -/
theorem reachable_cons_iff {root : String} {rest : List String} {name : String} :
    classifier.Reachable (root :: rest) name ↔
      classifier.Reachable [root] name ∨ classifier.Reachable rest name := by
  simp [Reachable]

/-- From a covered beginning, a visit sees what had been seen and what is reachable from the
waiting names. -/
theorem mem_seen_visit_iff {discovery : Discovery} {waiting : List String}
    (covers : classifier.Covers discovery waiting)
    (schemaTypes : ∀ name ∈ discovery.seen, classifier.IsSchemaType name) {name : String} :
    name ∈ (classifier.visit discovery waiting).1.seen ↔
      name ∈ discovery.seen ∨ classifier.Reachable waiting name := by
  constructor
  · exact visit_sees_only (classifier.Reachable waiting) (fun _ _ => Reachable.step)
      (fun _ => reachable_root) name
  · rintro (seen | ⟨root, waits, schemaType, chain⟩)
    · exact visit_sees (schemaTypes name seen) (.inl seen)
    · induction chain with
      | refl => exact visit_sees schemaType (.inr waits)
      | tail _ leads ih => simpa [Noticed] using covers.visit _ ih _ leads

/-- Discovery from several roots keeps the registry a list of what has been seen. -/
theorem Faithful.discoverAll {discovery : Discovery} (faithful : classifier.Faithful discovery)
    (roots : List String) :
    classifier.Faithful (classifier.discoverAll discovery roots).1 := by
  induction roots generalizing discovery with
  | nil => exact faithful
  | cons root rest ih => exact ih (faithful.visit [root])

/-- From a closed beginning, discovery sees what had been seen and what is reachable from the
roots. -/
theorem mem_seen_discoverAll_iff {discovery : Discovery} {roots : List String}
    (faithful : classifier.Faithful discovery) (closed : classifier.Covers discovery [])
    {name : String} :
    name ∈ (classifier.discoverAll discovery roots).1.seen ↔
      name ∈ discovery.seen ∨ classifier.Reachable roots name := by
  induction roots generalizing discovery with
  | nil => simp [discoverAll, Reachable]
  | cons root rest ih =>
    -- Roots share what has been seen, and nothing waits between two of them.
    have covers : classifier.Covers discovery [root] := fun seen held related leads =>
      (closed seen held related leads).imp_right nofun
    rw [reachable_cons_iff, ← or_assoc, ← mem_seen_visit_iff covers faithful.schemaTypes]
    exact ih (faithful.visit [root]) covers.visit

end Classifier

/-- The schema discovered from roots lists what has been seen. -/
theorem discoverSchema_registry (settings : CompilerSettings) (model : Model)
    (roots : List String) :
    ∃ discovery, (settings.classifier model).Faithful discovery ∧
      (discoverSchema settings model roots).1 = discovery.registry ∧
      ∀ name, name ∈ discovery.seen ↔ (settings.classifier model).Reachable roots name := by
  refine ⟨_, Classifier.faithful_empty.discoverAll roots, rfl, fun name => ?_⟩
  rw [Classifier.mem_seen_discoverAll_iff Classifier.faithful_empty (fun _ held => by cases held)]
  simp [Discovery.empty]

/-- In a discovered schema a lookup finds the fields of the reachable types. -/
theorem discoverSchema_lookup_eq_some_iff (settings : CompilerSettings) (model : Model)
    (roots : List String) {name : String} {fields : Table Field} :
    (discoverSchema settings model roots).1.lookup name = some fields ↔
      (settings.classifier model).Reachable roots name ∧
        fields = (settings.classifier model).fieldsOf name := by
  obtain ⟨discovery, faithful, same, seen⟩ := discoverSchema_registry settings model roots
  rw [same, faithful.lookup, ← seen]
  by_cases held : name ∈ discovery.seen <;> simp [held, eq_comm]

/-- A discovered schema contains the reachable types. -/
theorem discoverSchema_contains_iff (settings : CompilerSettings) (model : Model)
    (roots : List String) (name : String) :
    (discoverSchema settings model roots).1.contains name = true ↔
      (settings.classifier model).Reachable roots name := by
  rw [Registry.contains, Option.isSome_iff_exists]
  simp only [discoverSchema_lookup_eq_some_iff, exists_and_left, exists_eq, and_true]

/-- The schema discovered from roots holds exactly the reachable schema types: entities in one
half, value objects in the other, each with the fields of its ancestry. A name that is not
declared as an entity or a value object is in neither half, also when it is a root. -/
theorem discoverSchema_holds_reachable (settings : CompilerSettings) (model : Model)
    (roots : List String) :
    let classifier := settings.classifier model
    let registry := (discoverSchema settings model roots).1
    (∀ name, registry.contains name = true ↔ classifier.Reachable roots name) ∧
      (∀ name fields, registry.entities.find? name = some fields ↔
        classifier.Reachable roots name ∧ classifier.kindOf name = .entityLike ∧
          fields = classifier.fieldsOf name) ∧
      (∀ name fields, registry.embeddables.find? name = some fields ↔
        classifier.Reachable roots name ∧ classifier.kindOf name = .embeddableLike ∧
          fields = classifier.fieldsOf name) ∧
      ∀ name, registry.entities.contains name = true ∨ registry.embeddables.contains name = true →
        ∃ decl, model.lookup name = some decl ∧
          (decl.isEntity = true ∨ decl.isEmbeddable = true) := by
  intro classifier registry
  obtain ⟨discovery, faithful, same, seen⟩ := discoverSchema_registry settings model roots
  have same : registry = discovery.registry := same
  have entities : ∀ name fields, registry.entities.find? name = some fields ↔
      classifier.Reachable roots name ∧ classifier.kindOf name = .entityLike ∧
        fields = classifier.fieldsOf name := by
    intro name fields
    rw [same, Classifier.find?_of_entriesOf faithful.entities, seen]
  have embeddables : ∀ name fields, registry.embeddables.find? name = some fields ↔
      classifier.Reachable roots name ∧ classifier.kindOf name = .embeddableLike ∧
        fields = classifier.fieldsOf name := by
    intro name fields
    rw [same, Classifier.find?_of_entriesOf faithful.embeddables, seen]
  refine ⟨discoverSchema_contains_iff settings model roots, entities, embeddables, ?_⟩
  intro name held
  have reachable : classifier.Reachable roots name := by
    rcases held with held | held <;> obtain ⟨fields, found⟩ := Option.isSome_iff_exists.mp held
    · exact ((entities name fields).mp found).1
    · exact ((embeddables name fields).mp found).1
  exact reachable.isSchemaType.marked

end SchemaProjection
