import SchemaProjection.Model

/-!
# Supertypes

The ancestry of a type is the type itself followed by its supertypes, the closest first. It
ends at a type without a supertype, at a supertype that is not declared or is the universal
base type, and at the first name that it holds already; so it is finite also where types
extend each other in a circle. What a type inherits is taken over its ancestry: of two members
of the same name the closer one counts.
-/
namespace SchemaProjection

/-- `UNIVERSAL_BASE_TYPES` — the supertypes that every type extends without saying so. -/
def universalTypes : List String := ["Object", "java.lang.Object"]

/-- The supertype of a type that is not the universal one. -/
def TypeDecl.properParent (decl : TypeDecl) : Option String :=
  decl.parent.filter fun parent => !universalTypes.contains parent

namespace Model

/-- The declared types that are not among some names. -/
def others (model : Model) (names : List String) : List TypeDecl :=
  model.types.filter fun decl => !names.contains decl.name

/-- One more name leaves fewer declared types, if it is a declared one. -/
theorem others_cons_length_lt {model : Model} {names : List String} {decl : TypeDecl}
    (declared : decl ∈ model.types) (fresh : decl.name ∉ names) :
    (model.others (decl.name :: names)).length < (model.others names).length := by
  have split : model.others (decl.name :: names) =
      (model.others names).filter fun other => other.name != decl.name := by
    simp only [others, List.filter_filter]
    congr 1
    funext other
    by_cases same : other.name = decl.name <;> simp [same]
  rw [split]
  apply List.length_filter_lt_length_iff_exists.mpr
  exact ⟨decl, by simp [others, declared, fresh], by simp⟩

/-- The loop of `TypeModel::ancestry` — the type of a name and its supertypes, without the types of
the names met before. -/
def chain (model : Model) (met : List String) (name : String) : List TypeDecl :=
  match found : model.lookup name with
  | none => []
  | some decl =>
    if known : decl.name ∈ met then []
    else
      have := others_cons_length_lt (lookup_mem found) known
      decl :: match decl.properParent with
        | none => []
        | some parent => model.chain (decl.name :: met) parent
termination_by (model.others met).length

/-- `TypeModel::ancestry` — a type and its supertypes, the closest first. -/
def ancestry (model : Model) (name : String) : List TypeDecl := model.chain [] name

/-- The first of all fields of each name, in order. -/
def closest : List FieldDecl → List FieldDecl
  | [] => []
  | field :: rest => field :: (closest rest).filter fun other => other.name != field.name

/-- The closest fields have different names. -/
theorem closest_names_nodup (fields : List FieldDecl) :
    ((closest fields).map FieldDecl.name).Nodup := by
  induction fields with
  | nil => simp [closest]
  | cons field rest ih =>
    refine List.nodup_cons.mpr ⟨by simp, ?_⟩
    exact ih.sublist (List.filter_sublist.map FieldDecl.name)

/-- The fields of a type that satisfy a condition, each name once and as the closest
declaration of it that does. -/
def effectiveFields (model : Model) (holds : FieldDecl → Bool) (name : String) : List FieldDecl :=
  closest ((model.ancestry name).flatMap fun decl => decl.fields.filter holds)

/-- The declarations that `SchemaExtractor::collect_fields` keeps — the fields that take part in a
schema type. -/
def persistentFields (model : Model) (name : String) : List FieldDecl :=
  model.effectiveFields FieldDecl.isPersistent name

/-- `ProjectionCompiler::view_fields` — the fields that a view has to fill. -/
def mappedFields (model : Model) (name : String) : List FieldDecl :=
  model.effectiveFields FieldDecl.isMapped name

end Model

end SchemaProjection
