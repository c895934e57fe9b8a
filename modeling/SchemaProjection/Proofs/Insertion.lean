import Mathlib.Data.List.Nodup
import SchemaProjection.Model

/-!
# Inserted types

A model takes a type in exactly when the name of the type is new. A list of types is taken in as a
whole when no name is in the model or in the list before; else the types before the first taken
name are taken in, and this name is reported (`Model.insertAll_eq_none_iff`,
`Model.insertAll_eq_some_iff`).
-/
namespace SchemaProjection.Model

/-- Models with the same types and the same checksum are the same. -/
theorem eq_of_types {left right : Model} (types : left.types = right.types)
    (checksum : left.checksum = right.checksum) : left = right := by
  obtain ⟨_, _, _⟩ := left
  obtain ⟨_, _, _⟩ := right
  cases types
  cases checksum
  rfl

/-- A type is taken in behind the others exactly when its name is new. -/
theorem insert_eq_ok_iff {model larger : Model} {decl : TypeDecl} :
    model.insert decl = .ok larger ↔
      decl.name ∉ model.types.map TypeDecl.name ∧ larger.types = model.types ++ [decl] ∧
        larger.checksum = model.checksum := by
  rw [insert]
  split
  case isTrue taken => simp [taken]
  case isFalse fresh =>
    constructor
    · rintro ⟨⟩
      exact ⟨fresh, rfl, rfl⟩
    · rintro ⟨-, types, checksum⟩
      exact congrArg Except.ok (eq_of_types types.symm checksum.symm)

/-- A type is refused exactly when its name is taken, and this name is reported. -/
theorem insert_eq_error_iff {model : Model} {decl : TypeDecl} {duplicate : Duplicate} :
    model.insert decl = .error duplicate ↔
      decl.name ∈ model.types.map TypeDecl.name ∧ duplicate = ⟨decl.name⟩ := by
  rw [insert]
  split
  case isTrue taken => simp only [taken, Except.error.injEq, true_and, eq_comm]
  case isFalse fresh => simp [fresh]

/-- Types of new and distinct names are taken in behind the others. -/
theorem insertAll_eq_none_iff {model larger : Model} {decls : List TypeDecl} :
    model.insertAll decls = (larger, none) ↔
      (model.types.map TypeDecl.name ++ decls.map TypeDecl.name).Nodup ∧
        larger.types = model.types ++ decls ∧ larger.checksum = model.checksum := by
  induction decls generalizing model with
  | nil =>
    simp only [insertAll, Prod.mk.injEq, and_true, List.map_nil, List.append_nil, model.unique,
      true_and]
    exact ⟨fun same => same ▸ ⟨rfl, rfl⟩, fun ⟨types, checksum⟩ =>
      eq_of_types types.symm checksum.symm⟩
  | cons decl rest ih =>
    rw [insertAll]
    cases inserted : model.insert decl with
    | error duplicate =>
      have taken := (insert_eq_error_iff.mp inserted).1
      simp only [Prod.mk.injEq, reduceCtorEq, and_false, false_iff, not_and]
      intro distinct
      exact absurd List.mem_cons_self ((List.nodup_append'.mp distinct).2.2 taken)
    | ok next =>
      obtain ⟨-, types, checksum⟩ := insert_eq_ok_iff.mp inserted
      dsimp only
      rw [ih, types, checksum]
      simp only [List.map_append, List.map_cons, List.map_nil, List.append_assoc,
        List.singleton_append]

/-- Inserting types stops at the first taken name, which is reported, and keeps the types before
it. -/
theorem insertAll_eq_some_iff {model larger : Model} {decls : List TypeDecl}
    {duplicate : Duplicate} :
    model.insertAll decls = (larger, some duplicate) ↔
      ∃ before decl after, decls = before ++ decl :: after ∧
        (model.types.map TypeDecl.name ++ before.map TypeDecl.name).Nodup ∧
          decl.name ∈ model.types.map TypeDecl.name ++ before.map TypeDecl.name ∧
            duplicate = ⟨decl.name⟩ ∧ larger.types = model.types ++ before ∧
              larger.checksum = model.checksum := by
  induction decls generalizing model with
  | nil => simp [insertAll]
  | cons decl rest ih =>
    rw [insertAll]
    cases inserted : model.insert decl with
    | error refused =>
      obtain ⟨taken, rfl⟩ := insert_eq_error_iff.mp inserted
      simp only [Prod.mk.injEq, Option.some.injEq]
      constructor
      · rintro ⟨rfl, rfl⟩
        exact ⟨[], decl, rest, rfl, by simpa using model.unique, by simpa using taken, rfl,
          (List.append_nil _).symm, rfl⟩
      · rintro ⟨before, again, after, divided, distinct, -, rfl, types, checksum⟩
        cases before with
        | nil =>
          obtain ⟨rfl, rfl⟩ := List.cons.inj divided
          exact ⟨eq_of_types (types.trans (List.append_nil _)).symm checksum.symm, rfl⟩
        | cons first before =>
          obtain ⟨rfl, rfl⟩ := List.cons.inj divided
          exact absurd List.mem_cons_self ((List.nodup_append'.mp distinct).2.2 taken)
    | ok next =>
      obtain ⟨fresh, types, checksum⟩ := insert_eq_ok_iff.mp inserted
      dsimp only
      rw [ih, types, checksum]
      simp only [List.map_append, List.map_cons, List.map_nil, List.append_assoc,
        List.singleton_append]
      constructor
      · rintro ⟨before, again, after, rfl, rest⟩
        exact ⟨decl :: before, again, after, rfl, rest⟩
      · rintro ⟨before, again, after, divided, distinct, taken, rest⟩
        cases before with
        | nil =>
          obtain ⟨rfl, rfl⟩ := List.cons.inj divided
          exact absurd (by simpa using taken) fresh
        | cons first before =>
          obtain ⟨rfl, rfl⟩ := List.cons.inj divided
          exact ⟨before, again, after, rfl, distinct, taken, rest⟩

end SchemaProjection.Model
