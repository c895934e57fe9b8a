import SchemaProjection.Entries
import SchemaProjection.Number.Numeral
import SchemaProjection.Number.Shortest

/-!
# Values of settings

Settings come from several sources, one over the other. A group of settings is merged into the
group below it, name by name and in any case of letters; every other value replaces what is
below it. The name of a setting outside all groups, and that of every variable of the
environment, may itself be a path into groups and lists: `output.format`, `items[0]`. A list
grows to hold an index past its end; an index before its beginning has no place.
-/
namespace SchemaProjection

open Number (Double)
open Text (Reader)

/-- A value of a setting. -/
inductive SettingValue where
  /-- No value. -/
  | missing
  /-- A truth value. -/
  | bool (value : Bool)
  /-- A whole number. -/
  | integer (value : Int)
  /-- Another number. -/
  | float (value : Double)
  /-- A text. -/
  | text (content : String)
  /-- Values in order. -/
  | list (items : List SettingValue)
  /-- Named values. -/
  | group (entries : List (String × SettingValue))
deriving Repr, Inhabited

/-- Why a text holds no settings. -/
inductive NotationFault where
  /-- The text is not of its notation, or is another value than a group. -/
  | malformed
  /-- A value has a name that is neither a text nor a whole number. -/
  | unnamed
deriving Repr, DecidableEq

namespace SettingValue

mutual

/-- Values are the same when they are of one kind and hold the same. -/
def decEq : (left right : SettingValue) → Decidable (left = right)
  | .missing, right => match right with
    | .missing => isTrue rfl
    | .bool _ | .integer _ | .float _ | .text _ | .list _ | .group _ => isFalse nofun
  | .bool value, right => match right with
    | .bool other => decidable_of_iff (value = other) (by rw [bool.injEq])
    | .missing | .integer _ | .float _ | .text _ | .list _ | .group _ => isFalse nofun
  | .integer value, right => match right with
    | .integer other => decidable_of_iff (value = other) (by rw [integer.injEq])
    | .missing | .bool _ | .float _ | .text _ | .list _ | .group _ => isFalse nofun
  | .float value, right => match right with
    | .float other => decidable_of_iff (value = other) (by rw [float.injEq])
    | .missing | .bool _ | .integer _ | .text _ | .list _ | .group _ => isFalse nofun
  | .text content, right => match right with
    | .text other => decidable_of_iff (content = other) (by rw [text.injEq])
    | .missing | .bool _ | .integer _ | .float _ | .list _ | .group _ => isFalse nofun
  | .list items, right => match right with
    | .list others =>
      letI := decEqItems items others
      decidable_of_iff (items = others) (by rw [list.injEq])
    | .missing | .bool _ | .integer _ | .float _ | .text _ | .group _ => isFalse nofun
  | .group entries, right => match right with
    | .group others =>
      letI := decEqEntries entries others
      decidable_of_iff (entries = others) (by rw [group.injEq])
    | .missing | .bool _ | .integer _ | .float _ | .text _ | .list _ => isFalse nofun

/-- Lists of values are the same when they have the same values in order. -/
def decEqItems : (left right : List SettingValue) → Decidable (left = right)
  | [], [] => isTrue rfl
  | [], _ :: _ | _ :: _, [] => isFalse nofun
  | value :: items, other :: others =>
    letI := decEq value other
    letI := decEqItems items others
    decidable_of_iff (value = other ∧ items = others) (by rw [List.cons.injEq])

/-- Lists of named values are the same when they have the same names with the same values in
order. -/
def decEqEntries : (left right : List (String × SettingValue)) → Decidable (left = right)
  | [], [] => isTrue rfl
  | [], _ :: _ | _ :: _, [] => isFalse nofun
  | (name, value) :: entries, (otherName, other) :: others =>
    letI := decEq value other
    letI := decEqEntries entries others
    decidable_of_iff ((name = otherName ∧ value = other) ∧ entries = others)
      (by rw [List.cons.injEq, Prod.mk.injEq])

end

instance : DecidableEq SettingValue := decEq

/-- The named values of a group; anything else has none. -/
def entries : SettingValue → List (String × SettingValue)
  | .group entries => entries
  | _ => []

/-- The items of a list; anything else has none. -/
def items : SettingValue → List SettingValue
  | .list items => items
  | _ => []

/-- A name in small letters; the sign of the unit kelvin is a capital letter K. -/
def smallName (name : String) : String :=
  name.map fun c => if c == '\u212A' then 'k' else c.toLower

mutual

/-- Give a value to a name of a group. A group is merged into what the name stands for. -/
def assign (below : SettingValue) (name : String) : SettingValue → SettingValue
  | .group entries =>
    let old := (below.entries.lookup (smallName name)).getD (.group [])
    .group (Entries.put (smallName name) (mergeEntries old entries) below.entries)
  | value => .group (Entries.put (smallName name) value below.entries)

/-- Give values to names of a group one after the other. -/
def mergeEntries (below : SettingValue) : List (String × SettingValue) → SettingValue
  | [] => below
  | (name, value) :: rest => mergeEntries (assign below name value) rest

end

/-- A step of a path into groups and lists. -/
inductive Step where
  /-- Into a group. -/
  | name (name : String)
  /-- Into a list, from its end where the index is negative. -/
  | index (index : Int)
deriving Repr, DecidableEq

/-- The number of items that no list of settings goes past. -/
def itemLimit : Nat := 16777216

/-- The place of an index in a list of a length. An index from the end must not lie before the
beginning. -/
def placeOf? (index : Int) (length : Nat) : Option Nat :=
  if index ≥ 0 then if index.toNat < itemLimit then some index.toNat else none
  else if index.natAbs ≤ length then some (length - index.natAbs)
  else none

/-- Change an item of a list, which is made long enough. -/
def changeItem? (change : SettingValue → Option SettingValue) (index : Int)
    (items : List SettingValue) : Option (List SettingValue) := do
  let place ← placeOf? index items.length
  let items := items ++ List.replicate (place + 1 - items.length) .missing
  let changed ← change (items.getD place .missing)
  some (items.set place changed)

/-- Change what stands at the end of a path; groups and lists on the way take the place of other
values. -/
def changeAt? (change : SettingValue → SettingValue) :
    List Step → SettingValue → Option SettingValue
  | [], value => some (change value)
  | .name name :: rest, value => do
    let old := (value.entries.lookup (smallName name)).getD .missing
    let changed ← changeAt? change rest old
    some (.group (Entries.put (smallName name) changed value.entries))
  | .index index :: rest, value =>
    (changeItem? (changeAt? change rest) index value.items).map .list

/-- Give a value to a path, if each of its indexes has a place. -/
def assignPath? (path : List Step) (value below : SettingValue) : Option SettingValue :=
  match path.getLast? with
  | some (.name name) => changeAt? (fun group => group.assign name value) path.dropLast below
  | some (.index _) => changeAt? (fun _ => value) path below
  | none => some below

/-- A character of a name in a path. -/
def isPathChar (c : Char) : Bool := c.isAlphanum || c == ' ' || c == '_' || c == '-'

/-- Take a name of a path. -/
def pathName : Reader Step := do
  let first ← Reader.satisfying isPathChar
  let rest ← Reader.spanning isPathChar
  return .name (String.ofList (first :: rest))

/-- A blank around an index. -/
def isIndexBlank (c : Char) : Bool := c == ' ' || c == '\t'

/-- Take an index in brackets. -/
def pathIndex : Reader Step := do
  Reader.char '['
  let _ ← Reader.spanning isIndexBlank
  let minus ← Reader.maybe (Reader.char '-')
  let digits ← Number.digitRun 10
  let _ ← Reader.spanning isIndexBlank
  Reader.char ']'
  let index ← (Number.word? (Number.signedValue minus.isSome (Number.digitsValue digits)) :
    Option Int)
  return .index index

/-- Take a path. -/
def path : Reader (List Step) := do
  let first ← pathName
  let rest ← Reader.many ((Reader.char '.' *> pathName) <|> pathIndex)
  return first :: rest

/-- The path that a name stands for: the name itself if it is no path. -/
def pathOf (name : String) : List Step :=
  (Reader.whole? path name.toList).getD [.name name]

/-- Put the settings of a source over those below. A name whose indexes have no place is the
fault of all. -/
def overlay (below : SettingValue) :
    List (String × SettingValue) → Except String SettingValue
  | [] => .ok below
  | (name, value) :: rest =>
    match assignPath? (pathOf name) value below with
    | some combined => combined.overlay rest
    | none => .error name

/-- A group of named values, of which the last one of a name counts. -/
def groupOf (entries : List (String × SettingValue)) : SettingValue :=
  .group (entries.foldl (fun group (name, value) => Entries.put name value group) [])

end SettingValue

end SchemaProjection
