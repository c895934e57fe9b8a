import SchemaProjection.Proofs.Lossless
import SchemaProjection.Proofs.Table

/-!
# Documents by what stands in them

An address leads into a document over the names of members and the places of items. Two documents
are alike if they have the same at every address (`Value.Alike`); the order of members does not
matter to that. In a document in which no object has two members of one name the members may be put
in order (`Value.Distinct.alike_sorted`), and a format whose records have distinct names writes
such documents (`Format.distinct_writeJson`).
-/
namespace SchemaProjection

/-- In entries that have each name once, what is found does not depend on their order. -/
theorem Entries.lookup_congr {α : Type} {entries others : List (String × α)}
    (unique : (entries.map Prod.fst).Nodup) (same : entries.Perm others) (name : String) :
    entries.lookup name = others.lookup name := by
  have uniqueToo : (others.map Prod.fst).Nodup := (same.map Prod.fst).nodup_iff.mp unique
  refine Option.ext fun value => ?_
  rw [Entries.lookup_eq_some_iff unique, Entries.lookup_eq_some_iff uniqueToo, same.mem_iff]

/-- In changed values the changed value is found. -/
theorem Entries.lookup_map {α β : Type} (image : α → β) (entries : List (String × α))
    (name : String) :
    (entries.map fun entry => (entry.1, image entry.2)).lookup name =
      (entries.lookup name).map image := by
  induction entries with
  | nil => rfl
  | cons entry rest ih =>
    rw [List.map_cons, List.lookup_cons, List.lookup_cons, ih]
    cases name == entry.1 <;> rfl

namespace Json

/-- A step into a document. -/
inductive Key where
  /-- To the member of a name. -/
  | name (name : String)
  /-- To the item in a place. -/
  | place (place : Nat)

namespace Value

/-- The part of a document to which a step leads. -/
def child? : Value → Key → Option Value
  | .object members, .name name => members.lookup name
  | .array items, .place place => items[place]?
  | _, _ => none

/-- The part of a document at an address. -/
def at? (value : Value) : List Key → Option Value
  | [] => some value
  | key :: rest => (value.child? key).bind fun part => part.at? rest

/-- What a document is, apart from its items or members. -/
def bare : Value → Value
  | .array _ => .array []
  | .object _ => .object []
  | value => value

/-- Two documents have the same at every address. -/
def Alike (left right : Value) : Prop :=
  ∀ address, (left.at? address).map bare = (right.at? address).map bare

/-- No object in a document has two members of one name. -/
inductive Distinct : Value → Prop
  /-- The missing value. -/
  | null : Distinct .null
  /-- A truth value. -/
  | bool (value : Bool) : Distinct (.bool value)
  /-- A text. -/
  | text (content : String) : Distinct (.text content)
  /-- Distinct items. -/
  | array {items : List Value} (each : ∀ item ∈ items, item.Distinct) : Distinct (.array items)
  /-- Distinct members under distinct names. -/
  | object {members : List (String × Value)} (names : (members.map Prod.fst).Nodup)
    (each : ∀ member ∈ members, member.2.Distinct) : Distinct (.object members)

variable {value : Value}

/-- A part of a distinct document is distinct. -/
theorem Distinct.child {key : Key} {part : Value} (distinct : value.Distinct)
    (leads : value.child? key = some part) : part.Distinct := by
  cases distinct with
  | null | bool | text => cases leads
  | array each =>
    cases key with
    | name => cases leads
    | place place => exact each part (List.mem_of_getElem? leads)
  | object names each =>
    cases key with
    | name name => exact each (name, part) ((Entries.lookup_eq_some_iff names).mp leads)
    | place => cases leads

/-- Items are put in order one by one. -/
theorem sortedItems_eq (items : List Value) : sortedItems items = items.map sorted := by
  induction items with
  | nil => rfl
  | cons item rest ih => rw [sortedItems, ih, List.map_cons]

/-- Members are put in order one by one, where they stand. -/
theorem sortedMembers_eq (members : List (String × Value)) :
    sortedMembers members = members.map fun member => (member.1, member.2.sorted) := by
  induction members with
  | nil => rfl
  | cons member rest ih => rw [sortedMembers, ih, List.map_cons]

/-- Putting a document in order keeps the sort of document that it is. -/
theorem bare_sorted (value : Value) : value.sorted.bare = value.bare := by
  cases value <;> simp [sorted, bare]

/-- The members of an object that is put in order. -/
theorem exists_sorted_object (members : List (String × Value)) :
    ∃ others, (Value.object members).sorted = .object others ∧
      (members.map fun member => (member.1, member.2.sorted)).Perm others := by
  refine ⟨_, by rw [sorted], ?_⟩
  rw [sortedMembers_eq]
  exact (List.mergeSort_perm _ _).symm

/-- The names of members in order. -/
theorem names_sortedMembers (members : List (String × Value)) :
    (members.map fun member => (member.1, member.2.sorted)).map Prod.fst =
      members.map Prod.fst := by
  rw [List.map_map]
  rfl

/-- A part of a document in order is the part of the document in order. -/
theorem Distinct.child?_sorted (distinct : value.Distinct) (key : Key) :
    value.sorted.child? key = (value.child? key).map sorted := by
  cases distinct with
  | null | bool | text => rfl
  | @array items each =>
    rw [sorted, sortedItems_eq]
    cases key with
    | name => rfl
    | place place => exact List.getElem?_map ..
  | @object members names each =>
    obtain ⟨others, ordered, same⟩ := exists_sorted_object members
    rw [ordered]
    cases key with
    | name name =>
      have unique := (names_sortedMembers members).symm ▸ names
      exact (Entries.lookup_congr unique same name).symm.trans (Entries.lookup_map sorted ..)
    | place => rfl

/-- What stands at an address in a document in order is what stands there in the document, in
order. -/
theorem Distinct.at?_sorted (distinct : value.Distinct) (address : List Key) :
    value.sorted.at? address = (value.at? address).map sorted := by
  induction address generalizing value with
  | nil => rfl
  | cons key rest ih =>
    rw [at?, at?, distinct.child?_sorted]
    cases leads : value.child? key with
    | none => rfl
    | some part => exact ih (distinct.child leads)

/-- A distinct document in order is alike to the document. -/
theorem Distinct.alike_sorted (distinct : value.Distinct) : value.sorted.Alike value := by
  intro address
  rw [distinct.at?_sorted, Option.map_map]
  exact congrArg (Option.map · _) (funext bare_sorted)

/-- A distinct document in order is distinct. -/
theorem Distinct.sorted (distinct : value.Distinct) : value.sorted.Distinct := by
  induction distinct with
  | null => exact .null
  | bool value => exact .bool value
  | text content => exact .text content
  | @array items each ih =>
    rw [Value.sorted, sortedItems_eq]
    exact .array (List.forall_mem_map.mpr ih)
  | @object members names each ih =>
    obtain ⟨others, ordered, same⟩ := exists_sorted_object members
    rw [ordered]
    refine .object ((same.map Prod.fst).nodup_iff.mp ?_) ?_
    · rwa [names_sortedMembers]
    intro member listed
    obtain ⟨old, held, rfl⟩ := List.mem_map.mp (same.mem_iff.mpr listed)
    exact ih old held

end Value

end Json

mutual

/-- No record of a format has two fields of one name. -/
def Format.isTidy {α : Type} : Format α → Bool
  | .list item => item.isTidy
  | .optional present => present.isTidy
  | .record _ layout _ _ => decide layout.names.Nodup && layout.isTidy
  | _ => true

/-- No record of a format of the fields has two fields of one name. -/
def Fields.isTidy {values draft : Type} : Fields values draft → Bool
  | .none => true
  | .field _ format _ _ others => format.isTidy && others.isTidy

end

/-- The members that are written have the names of fields, in order. -/
theorem Fields.names_writeJson {values draft : Type} :
    (layout : Fields values draft) → (contents : values) →
      ((layout.writeJson contents).map Prod.fst).Sublist layout.names
  | .none, _ => List.Sublist.refl _
  | .field name format absent hidden others, (first, rest) => by
    by_cases hid : hidden first = true
    · rw [writeJson_hidden hid]
      exact (others.names_writeJson rest).cons name
    · rw [writeJson_shown hid, List.map_cons]
      exact (others.names_writeJson rest).cons_cons name

mutual

/-- A tidy format writes distinct documents. -/
theorem Format.distinct_writeJson {α : Type} :
    (format : Format α) → format.isTidy = true → (value : α) → (format.writeJson value).Distinct
  | .text _, _, content => .text content
  | .bool, _, value => .bool value
  | .phrase _ write, _, value => .text (write value)
  | .choice _ name, _, value => .text (name value)
  | .list item, tidy, values => .array <| List.forall_mem_map.mpr fun value _ =>
      item.distinct_writeJson tidy value
  | .optional present, _, none => .null
  | .optional present, tidy, some value => present.distinct_writeJson tidy value
  | .record name layout build parts, tidy, value => by
    rw [Format.isTidy, Bool.and_eq_true, decide_eq_true_eq] at tidy
    exact .object (tidy.1.sublist (layout.names_writeJson (parts value)))
      (layout.distinct_writeJson tidy.2 (parts value))

/-- The members that tidy fields write have distinct values. -/
theorem Fields.distinct_writeJson {values draft : Type} :
    (layout : Fields values draft) → layout.isTidy = true → (contents : values) →
      ∀ member ∈ layout.writeJson contents, member.2.Distinct
  | .none, _, _ => List.forall_mem_nil _
  | .field name format absent hidden others, tidy, (first, rest) => by
    rw [Fields.isTidy, Bool.and_eq_true] at tidy
    have further := others.distinct_writeJson tidy.2 rest
    by_cases hid : hidden first = true
    · rwa [Fields.writeJson_hidden hid]
    · rw [Fields.writeJson_shown hid]
      exact List.forall_mem_cons.mpr ⟨format.distinct_writeJson tidy.1 first, further⟩

end

end SchemaProjection
