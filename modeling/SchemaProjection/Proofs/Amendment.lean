import SchemaProjection.Proofs.Independence

/-!
# Amended models

An amendment changes declarations one by one, and leaves alone what they are called, what they
extend and what they project. In the amended model every name stands for the amended declaration,
so the ancestry of a type is amended member by member. An amendment that keeps what a schema is
made of (`TypeDecl.schemaPart`) changes neither schemas nor findings nor paths
(`Model.SchemasAgree`).
-/
namespace SchemaProjection

/-- A change of single declarations. -/
structure Amendment where
  /-- The changed declaration. -/
  apply : TypeDecl → TypeDecl
  /-- Names stay. -/
  name : ∀ decl, (apply decl).name = decl.name
  /-- Supertypes stay. -/
  parent : ∀ decl, (apply decl).parent = decl.parent
  /-- Projections stay. -/
  projection : ∀ decl, (apply decl).projection = decl.projection

namespace Model

/-- The model with all declarations changed. -/
def amend (model : Model) (amendment : Amendment) : Model where
  types := model.types.map amendment.apply
  unique := by
    rw [List.map_map, show TypeDecl.name ∘ amendment.apply = TypeDecl.name from
      funext amendment.name]
    exact model.unique
  checksum := model.checksum

/-- Two models have the same schemas: what is discovered from any roots, the sources of the views,
and what paths lead to. -/
structure SchemasAgree (settings : CompilerSettings) (left right : Model) : Prop where
  /-- The same types are discovered, with the same findings. -/
  discovered : ∀ roots, discoverSchema settings left roots = discoverSchema settings right roots
  /-- The views project the same types. -/
  sources : left.sources = right.sources
  /-- Paths lead to the same fields or fail with the same faults. -/
  paths : ∀ registry suggests root path,
    Navigation.resolve ⟨settings.classifier left, registry, suggests⟩ root path =
      Navigation.resolve ⟨settings.classifier right, registry, suggests⟩ root path

variable {model : Model} {amendment : Amendment}

/-- A name stands for the amended declaration. -/
theorem lookup_amend (model : Model) (amendment : Amendment) (name : String) :
    (model.amend amendment).lookup name = (model.lookup name).map amendment.apply := by
  have named : (fun decl : TypeDecl => decl.name == name) ∘ amendment.apply =
      fun decl => decl.name == name :=
    funext fun decl => by rw [Function.comp_apply, amendment.name]
  rw [lookup, lookup, amend, List.find?_map, named]

/-- An ancestry is amended member by member. -/
theorem ancestry_amend (model : Model) (amendment : Amendment) (name : String) :
    (model.amend amendment).ancestry name = (model.ancestry name).map amendment.apply := by
  have determines (first second : TypeDecl) (same : id first = amendment.apply second) :
      first.name = second.name ∧ first.parent = second.parent := by
    obtain rfl : first = amendment.apply second := same
    exact ⟨amendment.name second, amendment.parent second⟩
  have alike (name : String) :
      ((model.amend amendment).lookup name).map id = (model.lookup name).map amendment.apply := by
    rw [Option.map_id, lookup_amend]
    rfl
  simpa using ancestry_map_congr id amendment.apply determines alike name

/-- The views are the amended ones. -/
theorem views_amend (model : Model) (amendment : Amendment) :
    (model.amend amendment).views = model.views.map amendment.apply := by
  have views : TypeDecl.isView ∘ amendment.apply = TypeDecl.isView :=
    funext fun decl => congrArg Option.isSome (amendment.projection decl)
  rw [Model.views, Model.views, amend, List.filter_map, views]

/-- The views project the same types. -/
theorem sources_amend (model : Model) (amendment : Amendment) :
    (model.amend amendment).sources = model.sources := by
  have projections : TypeDecl.projection ∘ amendment.apply = TypeDecl.projection :=
    funext amendment.projection
  rw [sources, sources, views_amend, List.filterMap_map, projections]

/-- An amendment that keeps what a schema is made of leaves a model with the same schema. -/
theorem sameSchema_amend
    (keeps : ∀ decl, (amendment.apply decl).schemaPart = decl.schemaPart) :
    (model.amend amendment).SameSchema model := by
  intro name
  rw [lookup_amend, Option.map_map]
  exact congrArg (Option.map · _) (funext keeps)

/-- An amendment that keeps what a schema is made of changes no schema. -/
theorem schemasAgree_amend (settings : CompilerSettings)
    (keeps : ∀ decl, (amendment.apply decl).schemaPart = decl.schemaPart) :
    (model.amend amendment).SchemasAgree settings model where
  discovered := discoverSchema_congr settings (sameSchema_amend keeps)
  sources := sources_amend model amendment
  paths registry suggests _ :=
    ((sameSchema_amend keeps).agreesOn settings registry suggests).resolve trivial

variable {settings : CompilerSettings} {left right : Model}

/-- Where schemas agree, compilations have the same schema. -/
theorem SchemasAgree.run_schema (agree : left.SchemasAgree settings right) :
    (Compilation.run settings left).schema = (Compilation.run settings right).schema := by
  change (discoverSchema settings left left.sources).1 =
    (discoverSchema settings right right.sources).1
  rw [agree.sources, agree.discovered]

end Model

end SchemaProjection
