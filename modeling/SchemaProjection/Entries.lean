/-!
# Named entries

A list of names with values, where the first value of a name counts.
-/
namespace SchemaProjection.Entries

variable {α : Type}

/-- Give a value to a name, in its place or else at the end. -/
def put (name : String) (value : α) : List (String × α) → List (String × α)
  | [] => [(name, value)]
  | (other, old) :: rest =>
    if other = name then (name, value) :: rest else (other, old) :: put name value rest

end SchemaProjection.Entries
