import SchemaProjection.Json.Token

/-!
# What can be read of a JSON text

A text is read from left to right, and what stands before its first fault has a meaning of its
own: a value of the wrong type there is found before the fault is. So a text always gives a
tree. The tree of a text with a fault ends in it: from there on every array and object around
it is not closed.
-/
namespace SchemaProjection.Json

/-- A value up to its first fault. -/
inductive Partial where
  /-- No value stands here. -/
  | fault
  /-- The missing value. -/
  | null
  /-- A truth value. -/
  | bool (value : Bool)
  /-- A number. -/
  | number (value : Number)
  /-- A text literal and its content, if its escapes name whole characters. -/
  | text (content : Option String)
  /-- Items, and whether the array is closed after them. -/
  | array (items : List Partial) (closed : Bool)
  /-- Members, and whether the object is closed after them. A key that is not a text is the
  last one. -/
  | object (members : List (Partial × Partial)) (closed : Bool)
deriving Repr

instance : Inhabited Partial := ⟨.fault⟩

namespace Partial

/-- The tokens after a value, none when the value ends in a fault. -/
abbrev After (tokens : List Token) : Type :=
  Option { rest : List Token // rest.length < tokens.length }

mutual

/-- The value at the front of a list of tokens. -/
def readValue (tokens : List Token) : Partial × After tokens :=
  match tokens with
  | .null :: rest => (.null, some ⟨rest, by simp⟩)
  | .bool value :: rest => (.bool value, some ⟨rest, by simp⟩)
  | .number value :: rest => (.number value, some ⟨rest, by simp⟩)
  | .text content :: rest => (.text content, some ⟨rest, by simp⟩)
  | .openArray :: .closeArray :: rest =>
    (.array [] true, some ⟨rest, by simp only [List.length_cons]; omega⟩)
  | .openArray :: rest =>
    let (items, after) := readItems rest
    (.array items after.isSome, after.map fun after => ⟨after.1, by
      have := after.2
      simp only [List.length_cons]
      omega⟩)
  | .openObject :: .closeObject :: rest =>
    (.object [] true, some ⟨rest, by simp only [List.length_cons]; omega⟩)
  | .openObject :: rest =>
    let (members, after) := readMembers rest
    (.object members after.isSome, after.map fun after => ⟨after.1, by
      have := after.2
      simp only [List.length_cons]
      omega⟩)
  | _ => (.fault, none)
termination_by (tokens.length, 0)

/-- The items from the front of a list of tokens to the bracket that closes their array. -/
def readItems (tokens : List Token) : List Partial × After tokens :=
  match readValue tokens with
  | (item, none) => ([item], none)
  | (item, some ⟨.closeArray :: rest, shorter⟩) => ([item], some ⟨rest, by simp at shorter; omega⟩)
  | (item, some ⟨.comma :: rest, shorter⟩) =>
    have : rest.length < tokens.length := by simp at shorter; omega
    let (items, after) := readItems rest
    (item :: items, after.map fun after => ⟨after.1, by
      have := after.2
      omega⟩)
  | (item, some _) => ([item], none)
termination_by (tokens.length, 1)

/-- The members from the front of a list of tokens to the bracket that closes their object. -/
def readMembers (tokens : List Token) : List (Partial × Partial) × After tokens :=
  match tokens with
  | .text key :: .colon :: following =>
    match readValue following with
    | (value, none) => ([(.text key, value)], none)
    | (value, some ⟨.closeObject :: rest, shorter⟩) =>
      ([(.text key, value)], some ⟨rest, by simp at shorter ⊢; omega⟩)
    | (value, some ⟨.comma :: rest, shorter⟩) =>
      have : rest.length < following.length + 2 := by simp at shorter; omega
      let (members, after) := readMembers rest
      ((.text key, value) :: members, after.map fun after => ⟨after.1, by
        have := after.2
        simp only [List.length_cons]
        omega⟩)
    | (value, some _) => ([(.text key, value)], none)
  | .text key :: _ => ([(.text key, .fault)], none)
  | tokens => ([((readValue tokens).1, .fault)], none)
termination_by (tokens.length, 1)

end

/-- The tree of a text, and whether nothing but the value stands in it. -/
def ofText (text : String) : Partial × Bool :=
  match readValue (tokens text.toList) with
  | (value, some ⟨[], _⟩) => (value, true)
  | (value, _) => (value, false)

mutual

/-- A value without a fault. What its texts and numbers mean does not matter. -/
def isWhole : Partial → Bool
  | .fault => false
  | .array items closed => closed && allWhole items
  | .object members closed => closed && allMembersWhole members
  | _ => true

/-- Items without a fault. -/
def allWhole : List Partial → Bool
  | [] => true
  | item :: rest => isWhole item && allWhole rest

/-- Members with texts as keys and without a fault. -/
def allMembersWhole : List (Partial × Partial) → Bool
  | [] => true
  | (.text _, value) :: rest => isWhole value && allMembersWhole rest
  | _ => false

end

end Partial

end SchemaProjection.Json
