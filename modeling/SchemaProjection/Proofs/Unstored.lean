import SchemaProjection.Proofs.Amendment

/-!
# Fields that are not stored

Static and transient fields leave no trace. Each name is taken over an ancestry from the closest
declaration that counts, and a field that is not stored never counts: neither in a schema type nor
in a view, so it hides no stored field of its name and is hidden by none. A compilation only sees
what a schema is made of, the projections and the methods (`Compilation.run_amend`), and a model
without these fields has all of that.
-/
namespace SchemaProjection

namespace Amendment

/-- The static and the transient fields of every type are deleted. -/
def deletingUnstored : Amendment where
  apply decl :=
    { decl with fields := decl.fields.filter fun field => !field.isStatic && !field.isTransient }
  name _ := rfl
  parent _ := rfl
  projection _ := rfl

/-- The fields that are left are the persistent ones. -/
theorem deletingUnstored_fields (decl : TypeDecl) :
    (deletingUnstored.apply decl).fields = decl.fields.filter FieldDecl.isPersistent := by
  refine List.filter_congr fun field _ => ?_
  rw [FieldDecl.isPersistent, Bool.not_or]

/-- No schema is made of fields that are not stored. -/
theorem deletingUnstored_schemaPart (decl : TypeDecl) :
    (deletingUnstored.apply decl).schemaPart = decl.schemaPart := by
  have again : (deletingUnstored.apply decl).fields.filter FieldDecl.isPersistent =
      decl.fields.filter FieldDecl.isPersistent := by
    rw [deletingUnstored_fields, List.filter_filter]
    simp only [Bool.and_self]
  rw [TypeDecl.schemaPart, again]
  rfl

end Amendment

namespace Model

variable {model : Model} {amendment : Amendment}

/-- An amendment that keeps the methods of every type leaves the providers what they offer. -/
theorem sameMethods_amend
    (keeps : ∀ decl, (amendment.apply decl).methods = decl.methods) :
    (model.amend amendment).SameMethods model := by
  intro provider
  rw [MethodRequest.offered, MethodRequest.offered, ancestry_amend, List.flatMap_map]
  simp only [keeps, amendment.name]

end Model

namespace Compilation

/-- An amendment that keeps what a schema is made of and all methods changes no compilation. -/
theorem run_amend (settings : CompilerSettings) {model : Model} {amendment : Amendment}
    (schema : ∀ decl, (amendment.apply decl).schemaPart = decl.schemaPart)
    (methods : ∀ decl, (amendment.apply decl).methods = decl.methods) :
    run settings (model.amend amendment) = run settings model := by
  have agree : (model.amend amendment).SchemasAgree settings model :=
    Model.schemasAgree_amend settings schema
  have schemas := agree.run_schema
  have outcome (view : String) (projection : Projection) :
      (settings.viewCompiler (model.amend amendment) (run settings model).schema).compile view
          projection =
        (settings.viewCompiler model (run settings model).schema).compile view projection :=
    compile_model_congr settings (Model.sameSchema_amend schema) (Model.sameMethods_amend methods)
      _ _ _
  have views : (run settings (model.amend amendment)).views = (run settings model).views := by
    rw [run_views, run_views, schemas, Model.views_amend, List.filterMap_map]
    refine List.filterMap_congr fun decl _ => ?_
    simp only [Function.comp_apply, ViewCompiler.compiledView?, amendment.projection,
      amendment.name, outcome]
  have diagnostics : (run settings (model.amend amendment)).diagnostics.items =
      (run settings model).diagnostics.items := by
    rw [run_diagnostics, run_diagnostics, schemas, agree.sources, agree.discovered,
      Model.views_amend, List.flatMap_map]
    refine congrArg _ (List.flatMap_congr fun decl _ => ?_)
    simp only [ViewCompiler.viewReport, amendment.projection, amendment.name, outcome]
  have parts (compiled : Model) : run settings compiled =
      ⟨(run settings compiled).schema, (run settings compiled).views,
        ⟨(run settings compiled).diagnostics.items⟩, none⟩ := rfl
  rw [parts (model.amend amendment), schemas, views, diagnostics]
  rfl

/-- Without its static and transient fields, in schema types, views, supertypes and providers
alike, a model compiles to the same: the same schema with its fields in the same order, the same
views, and the same diagnostics. -/
theorem run_deletingUnstored (settings : CompilerSettings) (model : Model) :
    run settings (model.amend .deletingUnstored) = run settings model :=
  run_amend settings Amendment.deletingUnstored_schemaPart fun _ => rfl

end Compilation

end SchemaProjection
