import Mathlib.Data.Nat.Find
import Mathlib.Order.Bounds.Basic
import SchemaProjection.Proofs.DiscoveryRuns

/-!
# Types are found in the order of their distance

The names that wait form two layers: first those that so many fields lead to from the root, then
those that one field more leads to. `Layers` is this invariant, with what a breadth-first search
needs besides: everything closer than the first layer has been seen, and everything as close as it
has been seen or stands in it. So a type that is taken up is at least as far from the root as those
before it, which is the order in which each half of the registry lists its types.
-/
namespace SchemaProjection

namespace Classifier

/-- A type is a number of fields away from a root, by a way over schema types. -/
inductive Hops (classifier : Classifier) (root : String) : Nat → String → Prop
  /-- No field leads from the root to itself. -/
  | none : Hops classifier root 0 root
  /-- One field more. -/
  | more {count : Nat} {name related : String} (chain : Hops classifier root count name)
      (leads : classifier.LeadsTo name related) : Hops classifier root (count + 1) related

/-- The distance of a type from a root is the length of the shortest chain of fields that leads to
it. -/
def IsDistance (classifier : Classifier) (root name : String) (distance : Nat) : Prop :=
  IsLeast {count | classifier.Hops root count name} distance

/-- A type is closer to a root than a bound. -/
def Closer (classifier : Classifier) (root : String) (bound : Nat) (name : String) : Prop :=
  ∃ count < bound, classifier.Hops root count name

/-- A type is as close to a root as another one, or closer. -/
def AsClose (classifier : Classifier) (root name other : String) : Prop :=
  ∀ bound, classifier.Closer root bound other → classifier.Closer root bound name

/-- The names that wait stand in two layers around a root. -/
structure Layers (classifier : Classifier) (root : String) (discovery : Discovery) (level : Nat)
    (first second : List String) : Prop where
  /-- What has been seen is as close as the first layer, or closer. -/
  seenClose : ∀ name ∈ discovery.seen, classifier.Closer root (level + 1) name
  /-- The types of the first layer are so many fields away. -/
  firstClose : ∀ name ∈ first, classifier.Closer root (level + 1) name
  /-- The types of the second layer are one field further away. -/
  secondClose : ∀ name ∈ second, classifier.Closer root (level + 2) name
  /-- What is closer than the first layer has been seen. -/
  inside : ∀ name, classifier.Closer root level name → name ∈ discovery.seen
  /-- What is as close as the first layer has been seen or stands in it. -/
  reached : ∀ name, classifier.Closer root (level + 1) name → Noticed discovery first name
  /-- What seen types lead to has been seen or waits. -/
  covers : classifier.Covers discovery (first ++ second)
  /-- The types that were seen before another one are as close as this one. -/
  ordered : discovery.seen.Pairwise fun later earlier => classifier.AsClose root earlier later

variable {classifier : Classifier} {root : String}

/-- A closer type is closer than any greater bound. -/
theorem Closer.mono {bound greater : Nat} {name : String} (le : bound ≤ greater)
    (closer : classifier.Closer root bound name) : classifier.Closer root greater name := by
  obtain ⟨count, lt, hops⟩ := closer
  exact ⟨count, Nat.lt_of_lt_of_le lt le, hops⟩

/-- What a type leads to is at most one field further away. -/
theorem Closer.step {bound : Nat} {name related : String}
    (closer : classifier.Closer root bound name) (leads : classifier.LeadsTo name related) :
    classifier.Closer root (bound + 1) related := by
  obtain ⟨count, lt, hops⟩ := closer
  exact ⟨count + 1, Nat.succ_lt_succ lt, hops.more leads⟩

/-- A type closer than a bound is the root, or a type that is closer by one leads to it. -/
theorem Closer.cases {bound : Nat} {name : String}
    (closer : classifier.Closer root (bound + 1) name) :
    name = root ∨ ∃ before, classifier.Closer root bound before ∧
      classifier.LeadsTo before name := by
  obtain ⟨count, lt, hops⟩ := closer
  cases hops with
  | none => exact .inl rfl
  | more chain leads => exact .inr ⟨_, ⟨_, Nat.lt_of_succ_lt_succ lt, chain⟩, leads⟩

/-- From a schema type fields lead to schema types only. -/
theorem Closer.isSchemaType (schemaType : classifier.IsSchemaType root) {bound : Nat}
    {name : String} (closer : classifier.Closer root bound name) :
    classifier.IsSchemaType name := by
  obtain ⟨count, -, hops⟩ := closer
  cases hops with
  | none => exact schemaType
  | more chain leads => exact leads.1

/-- A type to which some chain of fields leads has a distance. -/
theorem Closer.exists_isDistance {bound : Nat} {name : String}
    (closer : classifier.Closer root bound name) :
    ∃ distance, classifier.IsDistance root name distance := by
  classical
  obtain ⟨count, -, hops⟩ := closer
  have reached : ∃ count, classifier.Hops root count name := ⟨count, hops⟩
  exact ⟨Nat.find reached, Nat.find_spec reached, fun _ => Nat.find_min' reached⟩

/-- A type that is as close as another one has no greater distance. -/
theorem AsClose.le {name other : String} (asClose : classifier.AsClose root name other)
    {near far : Nat} (nearest : classifier.IsDistance root name near)
    (farthest : classifier.IsDistance root other far) : near ≤ far := by
  obtain ⟨count, lt, hops⟩ := asClose (far + 1) ⟨far, Nat.lt_succ_self _, farthest.1⟩
  exact (nearest.2 hops).trans (Nat.le_of_lt_succ lt)

/-- At the beginning the root waits. -/
theorem layers_root : classifier.Layers root .empty 0 [root] [] where
  seenClose := nofun
  firstClose name held := by
    obtain rfl := List.mem_singleton.mp held
    exact ⟨0, Nat.zero_lt_one, .none⟩
  secondClose := nofun
  inside := nofun
  reached name closer := by
    rcases closer.cases with rfl | ⟨_, ⟨_, lt, -⟩, -⟩
    · exact .inr List.mem_cons_self
    · exact absurd lt (Nat.not_lt_zero _)
  covers := nofun
  ordered := .nil

/-- When nothing is left of the first layer, the second takes its place. -/
theorem Layers.advance {discovery : Discovery} {level : Nat} {second : List String}
    (layers : classifier.Layers root discovery level [] second) :
    classifier.Layers root discovery (level + 1) second [] where
  seenClose name held := (layers.seenClose name held).mono (Nat.le_succ _)
  firstClose := layers.secondClose
  secondClose := nofun
  inside name closer := (layers.reached name closer).resolve_right nofun
  reached name closer := by
    rcases closer.cases with rfl | ⟨before, close, leads⟩
    · have atRoot : classifier.Closer name (level + 1) name := ⟨0, Nat.succ_pos _, .none⟩
      exact .inl ((layers.reached name atRoot).resolve_right nofun)
    · have seen := (layers.reached before close).resolve_right nofun
      exact layers.covers before seen name leads
  covers := by simpa using layers.covers
  ordered := layers.ordered

/-- Passing over a name keeps the layers. -/
theorem Layers.pass (schemaType : classifier.IsSchemaType root) {discovery : Discovery}
    {level : Nat} {name : String} {first second : List String}
    (layers : classifier.Layers root discovery level (name :: first) second)
    (passed : name ∈ discovery.seen ∨ ¬classifier.IsSchemaType name) :
    classifier.Layers root discovery level first second where
  seenClose := layers.seenClose
  firstClose other held := layers.firstClose other (List.mem_cons_of_mem _ held)
  secondClose := layers.secondClose
  inside := layers.inside
  reached other closer := (layers.reached other closer).pass passed (closer.isSchemaType schemaType)
  covers := layers.covers.pass passed
  ordered := layers.ordered

/-- Taking up a name keeps the layers: it is not closer than what has been seen, and what it leads
to belongs to the second layer. -/
theorem Layers.takeUp {discovery : Discovery} {level : Nat} {name : String}
    {first second : List String} {role : Role}
    (layers : classifier.Layers root discovery level (name :: first) second)
    (fresh : name ∉ discovery.seen) :
    classifier.Layers root (classifier.takeUp discovery role name) level first
      (second ++ classifier.newlyRelated discovery name) where
  seenClose other held := by
    rcases List.mem_cons.mp held with rfl | before
    · exact layers.firstClose other List.mem_cons_self
    · exact layers.seenClose other before
  firstClose other held := layers.firstClose other (List.mem_cons_of_mem _ held)
  secondClose other held := by
    rcases List.mem_append.mp held with before | added
    · exact layers.secondClose other before
    · have leads := mem_relatedTypes.mp (List.mem_of_mem_filter added)
      exact (layers.firstClose name List.mem_cons_self).step leads
  inside other closer := List.mem_cons_of_mem _ (layers.inside other closer)
  reached other closer := by
    rcases layers.reached other closer with before | waits
    · exact .inl (List.mem_cons_of_mem _ before)
    · rcases List.mem_cons.mp waits with rfl | later
      · exact .inl List.mem_cons_self
      · exact .inr later
  covers := by
    rw [← List.append_assoc]
    exact layers.covers.takeUp
  ordered := by
    refine .cons (fun earlier held bound closer => ?_) layers.ordered
    have far : level < bound := by
      by_contra close
      exact fresh (layers.inside name (closer.mono (Nat.le_of_not_lt close)))
    exact (layers.seenClose earlier held).mono far

/-- The first of the names that wait stands in a first layer. -/
theorem Layers.exists_first {discovery : Discovery} {level : Nat} {name : String}
    {first second rest : List String}
    (layers : classifier.Layers root discovery level first second)
    (waiting : first ++ second = name :: rest) :
    ∃ level first second, first ++ second = rest ∧
      classifier.Layers root discovery level (name :: first) second := by
  cases first with
  | nil =>
    obtain rfl : second = name :: rest := waiting
    exact ⟨level + 1, rest, [], List.append_nil rest, layers.advance⟩
  | cons head first =>
    obtain ⟨rfl, same⟩ := List.cons.inj waiting
    exact ⟨level, first, second, same, layers⟩

/-- A visit that begins with a schema type sees types around it in the order of their distances. -/
theorem visit_layers (schemaType : classifier.IsSchemaType root) :
    ∃ level, classifier.Layers root (classifier.visit .empty [root]).1 level [] [] := by
  let keeps (discovery : Discovery) (waiting : List String) : Prop :=
    ∃ level first second, first ++ second = waiting ∧
      classifier.Layers root discovery level first second
  have kept : keeps (classifier.visit .empty [root]).1 [] := by
    refine visit_preserves keeps ?_ ?_ ⟨0, [root], [], rfl, layers_root⟩
    · rintro discovery name rest passed ⟨level, first, second, waiting, layers⟩
      obtain ⟨level, first, second, rfl, layers⟩ := layers.exists_first waiting
      exact ⟨level, first, second, rfl, layers.pass schemaType passed⟩
    · rintro discovery name rest role fresh taken ⟨level, first, second, waiting, layers⟩
      obtain ⟨level, first, second, rfl, layers⟩ := layers.exists_first waiting
      exact ⟨level, first, _, (List.append_assoc _ _ _).symm, layers.takeUp fresh⟩
  obtain ⟨level, first, second, waiting, layers⟩ := kept
  obtain ⟨rfl, rfl⟩ := List.append_eq_nil_iff.mp waiting
  exact ⟨level, layers⟩

/-- A half lists the types of its kind in the order in which they were seen. -/
theorem Faithful.names_half {discovery : Discovery} (faithful : classifier.Faithful discovery)
    (role : Role) :
    (discovery.registry.half role).names =
      discovery.seen.reverse.filter fun name => (classifier.kindOf name).role? = some role := by
  cases role with
  | entity =>
    simp only [Registry.half, Table.names, faithful.entities, entriesOf, List.map_map,
      Function.comp_def, List.map_id', Kind.role?_eq_entity_iff]
  | embeddable =>
    simp only [Registry.half, Table.names, faithful.embeddables, entriesOf, List.map_map,
      Function.comp_def, List.map_id', Kind.role?_eq_embeddable_iff]

/-- A visit that begins with a schema type sees it first. -/
theorem exists_seen_visit_root (schemaType : classifier.IsSchemaType root) :
    ∃ others, (classifier.visit .empty [root]).1.seen.reverse = root :: others := by
  cases taken : (classifier.kindOf root).role? with
  | none => exact absurd schemaType (role?_eq_none_iff.mp taken)
  | some role =>
    rw [visit_fresh [] (by simp [Discovery.empty]) taken]
    obtain ⟨turns, run⟩ := classifier.run_visit (classifier.takeUp .empty role root)
      ([] ++ classifier.newlyRelated .empty root)
    have seen : _ = (takenIn turns).reverse ++ [root] := run.seen_eq
    exact ⟨takenIn turns, by rw [seen]; simp⟩

end Classifier

/-- A schema that is discovered from one root lists the types of each half in the order of their
distances from the root, where the distance is the least number of fields that lead from the root to
a type over schema types; every type that is listed has a distance, and the root is the first of its
half, if it is a schema type. -/
theorem discoverSchema_by_distance (settings : CompilerSettings) (model : Model) (root : String) :
    let classifier := settings.classifier model
    let registry := (discoverSchema settings model [root]).1
    ∀ role,
      ((registry.half role).names.Pairwise fun earlier later => ∀ near far,
        classifier.IsDistance root earlier near → classifier.IsDistance root later far →
          near ≤ far) ∧
      (∀ name ∈ (registry.half role).names, ∃ distance, classifier.IsDistance root name distance) ∧
      ((classifier.kindOf root).role? = some role →
        (registry.half role).names.head? = some root) := by
  intro classifier registry role
  have faithful : classifier.Faithful (classifier.visit .empty [root]).1 :=
    Classifier.faithful_empty.visit [root]
  have names : (registry.half role).names =
      (classifier.visit .empty [root]).1.seen.reverse.filter fun name =>
        (classifier.kindOf name).role? = some role := faithful.names_half role
  rw [names]
  by_cases schemaType : classifier.IsSchemaType root
  · obtain ⟨level, layers⟩ := Classifier.visit_layers schemaType
    refine ⟨?_, fun name held => ?_, fun known => ?_⟩
    · refine .filter _ (List.pairwise_reverse.mpr (layers.ordered.imp fun asClose => ?_))
      exact fun near far nearest farthest => asClose.le nearest farthest
    · have seen := List.mem_reverse.mp (List.mem_of_mem_filter held)
      exact (layers.seenClose name seen).exists_isDistance
    · obtain ⟨others, first⟩ := Classifier.exists_seen_visit_root schemaType
      rw [first, List.filter_cons_of_pos (by simpa using known)]
      rfl
  · have nothing : classifier.visit .empty [root] = (.empty, []) := by
      rw [Classifier.visit_passed [] (.inr schemaType), Classifier.visit]
    rw [nothing]
    refine ⟨.nil, fun name held => absurd held List.not_mem_nil, fun known => ?_⟩
    exact absurd (Classifier.isSchemaType_of_role? known) schemaType

end SchemaProjection
