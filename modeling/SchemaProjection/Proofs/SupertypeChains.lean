import Mathlib.Data.List.Chain
import Mathlib.Data.List.Perm.Subperm
import Mathlib.Data.List.TakeWhile
import SchemaProjection.Proofs.Inheritance

/-!
# Chains of supertypes

An ancestry goes on from a type to its declared supertype, and stops only where there is none that
it does not hold already (`Model.IsAncestry`). Only one list does so: of two that begin with the
same type the longer one goes on where the shorter one stops (`IsAncestry.unique`). What a type
inherits is the longest beginning of the ancestry of its supertype in which the type itself does
not occur (`IsLongestWithout`).
-/
namespace SchemaProjection.Model

/-- A declared type is the supertype of another one, and is not a universal one. -/
structure Extends (model : Model) (lower upper : TypeDecl) : Prop where
  /-- The supertype is declared. -/
  declared : upper ∈ model.types
  /-- The type names the other as its supertype. -/
  named : lower.parent = some upper.name
  /-- The supertype is not universal. -/
  proper : upper.name ∉ universalTypes

/-- From a type there is no supertype to go on to, where some names have been met. -/
inductive Stops (model : Model) (met : List String) (last : TypeDecl) : Prop
  /-- The type names no supertype. -/
  | parentless (unnamed : last.parent = none)
  /-- The supertype is universal. -/
  | universal {parent : String} (named : last.parent = some parent)
    (universal : parent ∈ universalTypes)
  /-- The supertype is not declared. -/
  | undeclared {parent : String} (named : last.parent = some parent)
    (absent : ∀ decl ∈ model.types, decl.name ≠ parent)
  /-- The supertype has been met. -/
  | met {parent : String} (named : last.parent = some parent) (known : parent ∈ met)

/-- A list goes up from a name as far as it can without a repetition. -/
structure IsAncestry (model : Model) (name : String) (chain : List TypeDecl) : Prop where
  /-- The list is empty exactly if the name is not declared. -/
  eq_nil_iff : chain = [] ↔ ∀ decl ∈ model.types, decl.name ≠ name
  /-- The list begins with the declaration of the name. -/
  head : ∀ decl ∈ chain.head?, decl ∈ model.types ∧ decl.name = name
  /-- No name occurs twice. -/
  distinct : (chain.map TypeDecl.name).Nodup
  /-- In the list each type is followed by its supertype. -/
  climbs : chain.IsChain model.Extends
  /-- Behind the first type no type is universal. -/
  proper : ∀ decl ∈ chain.tail, decl.name ∉ universalTypes
  /-- The list stops where it cannot go on. -/
  stops : ∀ last ∈ chain.getLast?, model.Stops (chain.map TypeDecl.name) last

variable {model : Model} {met : List String} {name parent : String} {decl upper : TypeDecl}
  {chain other rest : List TypeDecl}

/-- A name under which nothing is found is not declared. -/
theorem lookup_eq_none_iff :
    model.lookup name = none ↔ ∀ decl ∈ model.types, decl.name ≠ name := by
  rw [lookup, List.find?_eq_none]
  exact forall₂_congr fun decl _ => not_congr beq_iff_eq

/-- The supertype of a type that is not universal. -/
theorem properParent_eq_some_iff :
    decl.properParent = some parent ↔ decl.parent = some parent ∧ parent ∉ universalTypes := by
  rw [TypeDecl.properParent, Option.filter_eq_some_iff]
  simp

/-- A type without a supertype other than the universal ones is the last one. -/
theorem stops_of_parentless (parentless : decl.properParent = none) : model.Stops met decl := by
  cases named : decl.parent with
  | none => exact .parentless named
  | some parent =>
    refine .universal named (not_not.mp fun proper => ?_)
    rw [properParent_eq_some_iff.mpr ⟨named, proper⟩] at parentless
    cases parentless

/-- A list goes up from a name as far as it can without meeting some names again. -/
structure Climbs (model : Model) (met : List String) (name : String) (chain : List TypeDecl) :
    Prop where
  /-- The list is empty exactly if the name has been met or is not declared. -/
  eq_nil_iff : chain = [] ↔ name ∈ met ∨ ∀ decl ∈ model.types, decl.name ≠ name
  /-- The list begins with the declaration of the name. -/
  head : ∀ decl ∈ chain.head?, decl ∈ model.types ∧ decl.name = name
  /-- No name occurs twice. -/
  distinct : (chain.map TypeDecl.name).Nodup
  /-- No type in the list has been met. -/
  fresh : ∀ decl ∈ chain, decl.name ∉ met
  /-- In the list each type is followed by its supertype. -/
  climbs : chain.IsChain model.Extends
  /-- The list stops where it cannot go on. -/
  stops : ∀ last ∈ chain.getLast?, model.Stops (chain.map TypeDecl.name ++ met) last

/-- Nothing goes up from a name that has been met or is not declared. -/
theorem climbs_nil (nothing : name ∈ met ∨ ∀ decl ∈ model.types, decl.name ≠ name) :
    model.Climbs met name [] where
  eq_nil_iff := iff_of_true rfl nothing
  head := nofun
  distinct := List.nodup_nil
  fresh := List.forall_mem_nil _
  climbs := .nil
  stops := nofun

/-- A type that has not been met and is the last one goes no further. -/
theorem climbs_last (declared : decl ∈ model.types) (fresh : decl.name ∉ met)
    (parentless : decl.properParent = none) : model.Climbs met decl.name [decl] where
  eq_nil_iff := iff_of_false nofun (not_or.mpr ⟨fresh, fun absent => absent decl declared rfl⟩)
  head first is := by cases is; exact ⟨declared, rfl⟩
  distinct := List.nodup_singleton _
  fresh := List.forall_mem_singleton.mpr fresh
  climbs := .singleton _
  stops last is := by cases is; exact stops_of_parentless parentless

/-- Above a type that has not been met stands what goes up from its supertype once the type is
met. -/
theorem Climbs.cons (climbs : model.Climbs (decl.name :: met) parent rest)
    (declared : decl ∈ model.types) (fresh : decl.name ∉ met)
    (proper : decl.properParent = some parent) : model.Climbs met decl.name (decl :: rest) := by
  obtain ⟨named, notUniversal⟩ := properParent_eq_some_iff.mp proper
  refine ⟨iff_of_false nofun (not_or.mpr ⟨fresh, fun absent => absent decl declared rfl⟩),
    fun first is => by cases is; exact ⟨declared, rfl⟩, ?_, ?_, ?_, ?_⟩
  · refine List.nodup_cons.mpr ⟨fun held => ?_, climbs.distinct⟩
    obtain ⟨above, listed, same⟩ := List.mem_map.mp held
    exact climbs.fresh above listed (same ▸ List.mem_cons_self)
  · exact List.forall_mem_cons.mpr
      ⟨fresh, fun above listed known => climbs.fresh above listed (List.mem_cons_of_mem _ known)⟩
  · refine List.isChain_cons.mpr ⟨fun above first => ?_, climbs.climbs⟩
    obtain ⟨aboveDeclared, rfl⟩ := climbs.head above first
    exact ⟨aboveDeclared, named, notUniversal⟩
  · intro last is
    have regrouped : rest.map TypeDecl.name ++ decl.name :: met ⊆
        (decl :: rest).map TypeDecl.name ++ met := by
      intro other listed
      simp only [List.map_cons, List.mem_append, List.mem_cons] at listed ⊢
      tauto
    cases above : rest with
    | nil =>
      subst above
      cases is
      obtain known | absent := climbs.eq_nil_iff.mp rfl
      · exact .met named (regrouped known)
      · exact .undeclared named absent
    | cons first further =>
      subst above
      rw [List.getLast?_cons_cons] at is
      cases climbs.stops last is with
      | parentless unnamed => exact .parentless unnamed
      | universal named universal => exact .universal named universal
      | undeclared named absent => exact .undeclared named absent
      | met named known => exact .met named (regrouped known)

/-- The chain of a name goes up from it as far as it can. -/
theorem climbs_chain (model : Model) (met : List String) (name : String) :
    model.Climbs met name (model.chain met name) := by
  induction met, name using chain.induct model with
  | case1 met name absent =>
    rw [chain_of_absent met absent]
    exact climbs_nil (.inr (lookup_eq_none_iff.mp absent))
  | case2 met name decl found known =>
    rw [chain_of_met found known]
    exact climbs_nil (.inl (lookup_name found ▸ known))
  | case3 met name decl found fresh fewer ih =>
    obtain ⟨declared, rfl⟩ := lookup_eq_some_iff.mp found
    rw [chain_of_fresh found fresh]
    cases proper : decl.properParent with
    | none => exact climbs_last declared fresh proper
    | some parent => exact (ih parent).cons declared fresh proper

/-- Of supertypes none is universal. -/
theorem proper_of_climbs (climbs : chain.IsChain model.Extends) :
    ∀ decl ∈ chain.tail, decl.name ∉ universalTypes := by
  induction climbs with
  | nil | singleton => exact List.forall_mem_nil _
  | cons_cons extended _ ih => exact List.forall_mem_cons.mpr ⟨extended.proper, ih⟩

/-- The ancestry of a name goes up from it as far as it can without a repetition. -/
theorem isAncestry_ancestry (model : Model) (name : String) :
    model.IsAncestry name (model.ancestry name) := by
  have climbs := model.climbs_chain [] name
  refine ⟨?_, climbs.head, climbs.distinct, climbs.climbs, proper_of_climbs climbs.climbs, ?_⟩
  · simpa [ancestry] using climbs.eq_nil_iff
  · simpa [ancestry] using climbs.stops

/-- A type has one supertype. -/
theorem Extends.unique {first second : TypeDecl} (left : model.Extends decl first)
    (right : model.Extends decl second) : first = second :=
  eq_of_name_eq left.declared right.declared (Option.some.inj (left.named.symm.trans right.named))

/-- Two lists that go up from the same type are the same as far as both go. -/
theorem prefix_or_prefix_of_climbs (left : chain.IsChain model.Extends)
    (right : other.IsChain model.Extends) (same : chain.head? = other.head?) :
    chain <+: other ∨ other <+: chain := by
  induction chain generalizing other with
  | nil => exact .inl List.nil_prefix
  | cons first further ih =>
    cases other with
    | nil => exact .inr List.nil_prefix
    | cons first' others =>
      obtain rfl : first = first' := Option.some.inj same
      simp only [List.prefix_cons_inj]
      cases further with
      | nil => exact .inl List.nil_prefix
      | cons second _ =>
        cases others with
        | nil => exact .inr List.nil_prefix
        | cons second' _ =>
          rw [List.isChain_cons_cons] at left right
          exact ih left.2 right.2 (congrArg some (left.1.unique right.1))

/-- A list that goes on behind an ancestry repeats a name or does not go up. -/
theorem IsAncestry.eq_of_prefix (stopped : model.IsAncestry name chain)
    (further : model.IsAncestry name other) (goes : chain <+: other) : chain = other := by
  obtain ⟨rest, rfl⟩ := goes
  cases rest with
  | nil => exact (List.append_nil chain).symm
  | cons next others =>
    exfalso
    cases last : chain.getLast? with
    | none =>
      have empty := List.getLast?_eq_none_iff.mp last
      have undeclared := stopped.eq_nil_iff.mp empty
      exact List.cons_ne_nil _ _ (List.append_eq_nil_iff.mp (further.eq_nil_iff.mpr undeclared)).2
    | some top =>
      obtain ⟨declared, named, proper⟩ : model.Extends top next := by
        have climbs := further.climbs
        rw [List.isChain_append] at climbs
        exact climbs.2.2 top last next rfl
      have fresh : next.name ∉ chain.map TypeDecl.name := by
        have distinct := further.distinct
        rw [List.map_append, List.nodup_append] at distinct
        exact fun held => distinct.2.2 _ held _ List.mem_cons_self rfl
      cases stopped.stops top last with
      | parentless unnamed => rw [named] at unnamed; cases unnamed
      | universal other universal =>
        cases named.symm.trans other
        exact proper universal
      | undeclared other absent =>
        cases named.symm.trans other
        exact absent next declared rfl
      | met other known =>
        cases named.symm.trans other
        exact fresh known

/-- A name has one ancestry. -/
theorem IsAncestry.unique (left : model.IsAncestry name chain)
    (right : model.IsAncestry name other) : chain = other := by
  have same : chain.head? = other.head? := by
    cases first : chain.head? with
    | none =>
      have undeclared := left.eq_nil_iff.mp (List.head?_eq_none_iff.mp first)
      rw [right.eq_nil_iff.mpr undeclared]
      rfl
    | some decl =>
      obtain ⟨declared, rfl⟩ := left.head decl first
      cases second : other.head? with
      | none =>
        have undeclared := right.eq_nil_iff.mp (List.head?_eq_none_iff.mp second)
        exact absurd rfl (undeclared decl declared)
      | some decl' =>
        obtain ⟨declared', same⟩ := right.head decl' second
        rw [eq_of_name_eq declared declared' same.symm]
  rcases prefix_or_prefix_of_climbs left.climbs right.climbs same with shorter | longer
  · exact left.eq_of_prefix right shorter
  · exact (right.eq_of_prefix left longer).symm

/-- A list is the longest beginning of another one in which no type of a name occurs. -/
structure IsLongestWithout (name : String) (whole begun : List TypeDecl) : Prop where
  /-- The other one begins with it. -/
  begins : begun <+: whole
  /-- The name does not occur. -/
  without : ∀ decl ∈ begun, decl.name ≠ name
  /-- Every such beginning is a beginning of it. -/
  longest : ∀ shorter, shorter <+: whole → (∀ decl ∈ shorter, decl.name ≠ name) →
    shorter <+: begun

/-- The types before the first one of a name are the longest beginning without the name. -/
theorem isLongestWithout_takeWhile (name : String) (whole : List TypeDecl) :
    IsLongestWithout name whole (whole.takeWhile fun decl => decl.name != name) := by
  refine ⟨List.takeWhile_prefix _, fun decl listed => ?_, fun shorter begins without => ?_⟩
  · have others := List.all_takeWhile (p := fun decl : TypeDecl => decl.name != name) (l := whole)
    exact bne_iff_ne.mp (List.all_eq_true.mp others decl listed)
  · obtain ⟨rest, rfl⟩ := begins
    rw [List.takeWhile_append_of_pos fun decl listed => bne_iff_ne.mpr (without decl listed)]
    exact List.prefix_append _ _

/-- The supertype under which an ancestry goes on. -/
theorem Extends.properParent (extended : model.Extends decl upper) :
    decl.properParent = some upper.name :=
  properParent_eq_some_iff.mpr ⟨extended.named, extended.proper⟩

/-- An ancestry has no more types than are declared. -/
theorem length_ancestry_le (model : Model) (name : String) :
    (model.ancestry name).length ≤ model.types.length := by
  have distinct := (model.isAncestry_ancestry name).distinct.of_map
  exact (distinct.subperm fun _ => mem_types_of_mem_ancestry).length_le

/-- The ancestry of a name is the one list that goes up from it as far as it can without a
repetition; it is no longer than the list of the declared types. The ancestry of a type with a
supertype is the type and the longest beginning of the ancestry of the supertype in which the
type does not occur. -/
theorem ancestry_maximal (model : Model) (name : String) :
    (∀ chain, model.IsAncestry name chain ↔ chain = model.ancestry name) ∧
      (model.ancestry name).length ≤ model.types.length ∧
      ∀ decl upper, decl ∈ model.types → decl.name = name → model.Extends decl upper →
        ∃ inherited, model.ancestry name = decl :: inherited ∧
          IsLongestWithout name (model.ancestry upper.name) inherited := by
  refine ⟨fun chain => ?_, model.length_ancestry_le name, ?_⟩
  · constructor
    · exact fun ancestry => ancestry.unique (model.isAncestry_ancestry name)
    · rintro rfl
      exact model.isAncestry_ancestry name
  · intro decl upper declared named extended
    have found := lookup_eq_some_iff.mpr ⟨declared, named⟩
    exact ⟨_, ancestry_of_parent found extended.properParent, isLongestWithout_takeWhile _ _⟩

/-- A type without members and with a supertype. -/
def extending (name parent : String) : TypeDecl :=
  ⟨name, .plain, some parent, false, false, none, none, [], []⟩

/-- Two types that extend each other, and one that extends one of them. -/
def circle : Model :=
  ⟨[extending "Left" "Right", extending "Right" "Left", extending "Branch" "Left"], by decide, none⟩

/-- The ancestry of a type of the circle is cut behind the other one, although the ancestry of its
supertype goes on. -/
theorem circle_ancestry_maximal :
    ∃ inherited, circle.ancestry "Left" = extending "Left" "Right" :: inherited ∧
      IsLongestWithout "Left" (circle.ancestry "Right") inherited :=
  (ancestry_maximal circle "Left").2.2 (extending "Left" "Right") (extending "Right" "Left")
    (by decide) rfl ⟨by decide, rfl, by decide⟩

end SchemaProjection.Model
