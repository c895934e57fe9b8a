import Mathlib.Data.List.Basic
import SchemaProjection.Entries
import SchemaProjection.Table

/-!
# Lookups in tables

A table holds each name once, so its entries and its lookups determine each other, as in any list
of entries with distinct names. A new name goes to the end of the entries, and a table that gives
every name of a list the value of a function is looked up by applying the function.
-/
namespace SchemaProjection

/-- The first entry counts if it has the name, and otherwise the rest. -/
theorem Entries.lookup_cons {α : Type} (name other : String) (value : α)
    (rest : List (String × α)) :
    List.lookup other ((name, value) :: rest) =
      if other = name then some value else rest.lookup other := by
  rw [List.lookup_cons]
  by_cases same : other = name <;> simp [same, beq_false_of_ne]

/-- In entries that have each name once, a value is found under a name exactly when the two stand
among them. -/
theorem Entries.lookup_eq_some_iff {α : Type} {entries : List (String × α)}
    (unique : (entries.map Prod.fst).Nodup) {name : String} {value : α} :
    entries.lookup name = some value ↔ (name, value) ∈ entries := by
  induction entries with
  | nil => simp
  | cons entry rest ih =>
    obtain ⟨other, old⟩ := entry
    rw [List.map_cons, List.nodup_cons] at unique
    by_cases same : name = other
    · subst same
      have absent : (name, value) ∉ rest := fun held =>
        unique.1 (List.mem_map.mpr ⟨(name, value), held, rfl⟩)
      simp [absent, eq_comm]
    · rw [Entries.lookup_cons, if_neg same, List.mem_cons]
      simp [same, ih unique.2]

namespace Table

variable {α : Type}

/-- Tables with the same entries are the same. -/
theorem eq_of_entries {left right : Table α} (same : left.entries = right.entries) :
    left = right := by
  obtain ⟨entries, unique⟩ := left
  obtain ⟨_, _⟩ := right
  subst same
  rfl

/-- A value is found under a name exactly when the two stand in the table. -/
theorem find?_eq_some_iff {table : Table α} {name : String} {value : α} :
    table.find? name = some value ↔ (name, value) ∈ table.entries :=
  Entries.lookup_eq_some_iff table.unique

/-- A value is found exactly under the names of the table. -/
theorem isSome_find?_iff {table : Table α} {name : String} :
    (table.find? name).isSome = true ↔ name ∈ table.names := by
  rw [Option.isSome_iff_exists]
  simp [find?_eq_some_iff, names]

/-- A name that the table holds is not added again. -/
theorem add_of_mem {table : Table α} {name : String} (held : name ∈ table.names) (value : α) :
    table.add name value = table := by
  rw [add, dif_pos (show name ∈ table.entries.map Prod.fst from held)]

/-- A name that the table does not hold is added after the others. -/
theorem entries_add {table : Table α} {name : String} (fresh : name ∉ table.names) (value : α) :
    (table.add name value).entries = table.entries ++ [(name, value)] := by
  rw [add, dif_neg (show name ∉ table.entries.map Prod.fst from fresh)]

/-- A value that is added is found under its name, unless the table held the name before. -/
theorem find?_add (table : Table α) (name other : String) (value : α) :
    (table.add name value).find? other =
      (table.find? other).or (if other = name then some value else none) := by
  by_cases held : name ∈ table.names
  · rw [add_of_mem held]
    split
    next same =>
      obtain ⟨found, lookup⟩ := Option.isSome_iff_exists.mp (isSome_find?_iff.mpr held)
      rw [same, lookup, Option.some_or]
    next => rw [Option.or_none]
  · rw [find?, entries_add held, List.lookup_append]
    by_cases same : other = name
    · simp [find?, same]
    · simp [find?, Entries.lookup_cons, same]

/-- Names that all have the value of one function are looked up by that function. -/
theorem find?_of_entries_map {table : Table α} {names : List String} {value : String → α}
    (entries : table.entries = names.map fun name => (name, value name)) (name : String) :
    table.find? name = if name ∈ names then some (value name) else none := by
  split
  next held =>
    rw [find?_eq_some_iff, entries]
    exact List.mem_map_of_mem (f := fun name => (name, value name)) held
  next absent =>
    rw [Option.eq_none_iff_forall_ne_some]
    intro found lookup
    rw [find?_eq_some_iff, entries, List.mem_map] at lookup
    obtain ⟨other, held, same⟩ := lookup
    obtain rfl : other = name := congrArg Prod.fst same
    exact absent held

end Table

end SchemaProjection
