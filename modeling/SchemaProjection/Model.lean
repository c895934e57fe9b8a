import SchemaProjection.Checksum
import SchemaProjection.Declaration

/-!
# Models

A model holds the declared types of one compilation in the order they were added, and each name
once. A type whose name is taken is refused and changes nothing; of a document whose types are
added in order, the types before the first refused one stay. What a `TypeModel` offers is answered
from these declarations, as no other model is built.
-/
namespace SchemaProjection

/-- `Declarations` — the declared types of one compilation. -/
structure Model where
  /-- The types in the order they were added. -/
  types : List TypeDecl
  /-- Each name is declared once. -/
  unique : (types.map TypeDecl.name).Nodup
  /-- The checksum of the documents that the model was read from. -/
  checksum : Option Checksum

namespace Model

/-- The model without types. -/
def empty : Model := ⟨[], List.nodup_nil, none⟩

instance : Inhabited Model := ⟨empty⟩

/-- `Declarations::lookup` — the declared type of a name. -/
def lookup (model : Model) (name : String) : Option TypeDecl :=
  model.types.find? (·.name == name)

/-- The type found under a name has this name. -/
theorem lookup_name {model : Model} {name : String} {decl : TypeDecl}
    (found : model.lookup name = some decl) : decl.name = name := by
  simpa using List.find?_some found

/-- The type found under a name is declared. -/
theorem lookup_mem {model : Model} {name : String} {decl : TypeDecl}
    (found : model.lookup name = some decl) : decl ∈ model.types :=
  List.mem_of_find?_eq_some found

/-- `Declarations::views` — the views in the order they were added. -/
def views (model : Model) : List TypeDecl := model.types.filter TypeDecl.isView

/-- `TypeModel::fields` — the fields that a type declares itself. -/
def fields (model : Model) (name : String) : List FieldDecl :=
  ((model.lookup name).map TypeDecl.fields).getD []

/-- `TypeModel::methods` — the methods that a type declares itself. -/
def methods (model : Model) (name : String) : List MethodDecl :=
  ((model.lookup name).map TypeDecl.methods).getD []

/-- `Error::DuplicateType` — a name that is declared already. -/
structure Duplicate where
  /-- The name. -/
  name : String
deriving Repr, DecidableEq

/-- The message of a refused type. -/
def Duplicate.message (duplicate : Duplicate) : String :=
  s!"Duplicate type declaration: {duplicate.name}"

/-- `Declarations::insert` — add a type after the others. -/
def insert (model : Model) (decl : TypeDecl) : Except Duplicate Model :=
  if taken : decl.name ∈ model.types.map TypeDecl.name then .error ⟨decl.name⟩
  else
    .ok ⟨model.types ++ [decl], by
      rw [List.map_append, List.nodup_append]
      refine ⟨model.unique, by simp, ?_⟩
      intro first firstMem second secondMem same
      simp only [List.map_cons, List.map_nil, List.mem_singleton] at secondMem
      exact taken (secondMem ▸ same ▸ firstMem), model.checksum⟩

/-- Add types in order up to the first that is refused. -/
def insertAll (model : Model) : List TypeDecl → Model × Option Duplicate
  | [] => (model, none)
  | decl :: rest =>
    match model.insert decl with
    | .error duplicate => (model, some duplicate)
    | .ok larger => larger.insertAll rest

/-- `Declarations::extend` — add the types of a document in order up to the first that is
refused. -/
def extend (model : Model) (document : Document) : Model × Option Duplicate :=
  model.insertAll document.types

/-- `Declarations::from_json_str` and `Declarations::from_toml_str`, once the document is read — the
model of one document with the checksum of its text. -/
def ofDocument (document : Document) (content : String) : Except Duplicate Model :=
  match empty.extend document with
  | (_, some duplicate) => .error duplicate
  | (model, none) => .ok { model with checksum := some (.ofContent content) }

end Model

end SchemaProjection
