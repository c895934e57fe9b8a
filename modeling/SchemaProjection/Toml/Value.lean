import SchemaProjection.Entries
import SchemaProjection.Number.Shortest

/-!
# TOML values

A document in TOML is a table of values. While it is read, a table knows how it came about: a
header or an array of tables opens it, a longer header implies it, or a dotted key does. Only an
implied table may still be opened by a header, and only a table of dotted keys may be extended
by further dotted keys.
-/
namespace SchemaProjection.Toml

open Number (Double)

/-- A value of a document. -/
inductive Value where
  /-- A text. -/
  | text (content : String)
  /-- A whole number. -/
  | integer (value : Int)
  /-- A number with a fraction or an exponent. -/
  | float (value : Double)
  /-- A truth value. -/
  | bool (value : Bool)
  /-- A date, a time or both, in its canonical form. -/
  | moment (canonical : String)
  /-- Items in order. -/
  | array (items : List Value)
  /-- Named values. -/
  | table (entries : List (String × Value))
deriving Repr, Inhabited

/-- How a table came about. -/
inductive Origin where
  /-- By a header, as an element of an array of tables, or by braces. -/
  | opened
  /-- By a header of a table inside it. -/
  | implied
  /-- By a dotted key. -/
  | dotted
deriving Repr, DecidableEq

/-- A value in a table that is still being read. -/
inductive Node where
  /-- A finished value. -/
  | value (content : Value)
  /-- A table. -/
  | table (origin : Origin) (entries : List (String × Node))
  /-- An array of tables, of which the last one may still grow. -/
  | elements (tables : List (List (String × Node)))
deriving Inhabited

namespace Node

open Entries (put)

/-- Change the table at the end of a path. On the way a missing table is created, of an array of
tables the last one is taken, and dotted keys lead only through tables that no header has
opened. -/
def within (change : Origin → List (String × Node) → Option (List (String × Node)))
    (creates : Origin) (origin : Origin) (entries : List (String × Node)) :
    List String → Option (List (String × Node))
  | [] => change origin entries
  | key :: path =>
    match entries.lookup key with
    | none => do
      let inner ← within change creates creates [] path
      some (put key (.table creates inner) entries)
    | some (.value _) => none
    | some (.elements tables) => do
      let last ← tables.getLast?
      let inner ← within change creates .opened last path
      some (put key (.elements (tables.dropLast ++ [inner])) entries)
    | some (.table found inner) =>
      if creates = .dotted ∧ found = .opened then none
      else do
        let inner ← within change creates found inner path
        some (put key (.table found inner) entries)

/-- Give a value to a dotted key. -/
def assign (path : List String) (key : String) (value : Value) (entries : List (String × Node)) :
    Option (List (String × Node)) :=
  within (fun origin entries =>
      if decide (origin = .dotted) = path.isEmpty || (entries.lookup key).isSome then none
      else some (entries ++ [(key, .value value)]))
    .dotted .opened entries path

/-- Give a value to a dotted key in the table of the last header. -/
def assignAt (header path : List String) (key : String) (value : Value)
    (entries : List (String × Node)) : Option (List (String × Node)) :=
  within (fun _ entries => assign path key value entries) .implied .opened entries header

/-- Open the table of a header. -/
def openTable (path : List String) (key : String) (entries : List (String × Node)) :
    Option (List (String × Node)) :=
  within (fun _ entries =>
      match entries.lookup key with
      | none => some (entries ++ [(key, .table .opened [])])
      | some (.table .implied inner) =>
        some ((entries.filter fun entry => entry.1 != key) ++ [(key, .table .opened inner)])
      | some _ => none)
    .implied .opened entries path

/-- Open one more element of an array of tables. -/
def openElement (path : List String) (key : String) (entries : List (String × Node)) :
    Option (List (String × Node)) :=
  within (fun _ entries =>
      match entries.lookup key with
      | none => some (entries ++ [(key, .elements [[]])])
      | some (.elements tables) => some (put key (.elements (tables ++ [[]])) entries)
      | some _ => none)
    .implied .opened entries path

mutual

/-- A node as a finished value. -/
def finished : Node → Value
  | .value content => content
  | .table _ entries => .table (finishedEntries entries)
  | .elements tables => .array (finishedTables tables)

/-- The nodes of a table as finished values. -/
def finishedEntries : List (String × Node) → List (String × Value)
  | [] => []
  | (name, node) :: rest => (name, finished node) :: finishedEntries rest

/-- The tables of an array as finished values. -/
def finishedTables : List (List (String × Node)) → List Value
  | [] => []
  | entries :: rest => .table (finishedEntries entries) :: finishedTables rest

end

end Node

end SchemaProjection.Toml
