/-!
# Tables

A table maps names to values and keeps the names in the order in which they came. It holds each
name once; adding a name that is there already leaves the table as it is.
-/
namespace SchemaProjection

/-- Names with values, in the order in which the names came. -/
structure Table (α : Type) where
  /-- The names and their values. -/
  entries : List (String × α)
  /-- Each name stands once. -/
  unique : (entries.map Prod.fst).Nodup

namespace Table

variable {α : Type}

/-- The table without names. -/
def empty : Table α := ⟨[], List.nodup_nil⟩

instance : Inhabited (Table α) := ⟨empty⟩

/-- The value of a name. -/
def find? (table : Table α) (name : String) : Option α := table.entries.lookup name

/-- Whether a name stands in the table. -/
def contains (table : Table α) (name : String) : Bool := (table.find? name).isSome

/-- The names in order. -/
def names (table : Table α) : List String := table.entries.map Prod.fst

/-- The number of names. -/
def size (table : Table α) : Nat := table.entries.length

/-- Add a name at the end, unless the table holds it. -/
def add (table : Table α) (name : String) (value : α) : Table α :=
  if held : name ∈ table.entries.map Prod.fst then table
  else
    ⟨table.entries ++ [(name, value)], by
      rw [List.map_append, List.nodup_append]
      refine ⟨table.unique, by simp, ?_⟩
      intro first firstMem second secondMem same
      simp only [List.map_cons, List.map_nil, List.mem_singleton] at secondMem
      exact held (secondMem ▸ same ▸ firstMem)⟩

/-- The names of a list with a value for each, where a name that comes again keeps its place and
takes the later value. -/
def ofList (entries : List (String × α)) : Table α :=
  let last (name : String) (value : α) : α := (entries.reverse.lookup name).getD value
  entries.foldl (fun table entry => table.add entry.1 (last entry.1 entry.2)) empty

end Table

end SchemaProjection
