import SchemaProjection.Text.Segment

/-!
# Type expressions

A type expression is a name with type arguments in angle brackets and a number of array
suffixes: `Map<String, Order>[]`. Two expressions are the same type exactly when their names,
arguments and suffixes agree, so `List<Order>` and `Set<Order>` differ although their elements
are the same. `TypeExpr.text` is the canonical form: one space after each comma and none
elsewhere.
-/
namespace SchemaProjection

/-- `TypeRef` — a name, its type arguments in order, and the number of `[]` that follow. -/
structure TypeExpr where
  /-- The base name with its qualifier, as written. -/
  name : String
  /-- The type arguments in order. -/
  arguments : List TypeExpr
  /-- The number of array suffixes. -/
  dimensions : Nat
deriving Repr

namespace TypeExpr

mutual

/-- Equality of type expressions is decided part by part. -/
def decideEq : (left right : TypeExpr) → Decidable (left = right)
  | ⟨leftName, leftArguments, leftDimensions⟩, ⟨rightName, rightArguments, rightDimensions⟩ =>
    match decEq leftName rightName, decideEqList leftArguments rightArguments,
        decEq leftDimensions rightDimensions with
    | isTrue names, isTrue arguments, isTrue dimensions =>
      isTrue (by rw [names, arguments, dimensions])
    | isFalse differ, _, _ => isFalse fun same => differ (TypeExpr.mk.inj same).1
    | _, isFalse differ, _ => isFalse fun same => differ (TypeExpr.mk.inj same).2.1
    | _, _, isFalse differ => isFalse fun same => differ (TypeExpr.mk.inj same).2.2

/-- Equality of lists of type expressions is decided element by element. -/
def decideEqList : (left right : List TypeExpr) → Decidable (left = right)
  | [], [] => isTrue rfl
  | [], _ :: _ => isFalse nofun
  | _ :: _, [] => isFalse nofun
  | left :: leftRest, right :: rightRest =>
    match decideEq left right, decideEqList leftRest rightRest with
    | isTrue heads, isTrue tails => isTrue (by rw [heads, tails])
    | isFalse differ, _ => isFalse fun same => differ (List.cons.inj same).1
    | _, isFalse differ => isFalse fun same => differ (List.cons.inj same).2

end

instance : DecidableEq TypeExpr := decideEq

instance : Inhabited TypeExpr := ⟨⟨"", [], 0⟩⟩

/-- `TypeRef::named` — a type without arguments or array suffixes. -/
def named (name : String) : TypeExpr := ⟨name, [], 0⟩

/-- `TypeRef::generic` — a type with the given arguments and no array suffix. -/
def generic (name : String) (arguments : List TypeExpr) : TypeExpr := ⟨name, arguments, 0⟩

/-- `TypeRef::simple_name` — the name without its qualifier. -/
def simpleName (type : TypeExpr) : String := Text.simpleName type.name

/-- `TypeRef::is_generic` — whether a type has arguments. -/
def isGeneric (type : TypeExpr) : Bool := !type.arguments.isEmpty

/-- `TypeRef::is_array` — whether a type has array suffixes. -/
def isArray (type : TypeExpr) : Bool := type.dimensions > 0

/-- `TypeRef::element` — the element type of a container, which is its last argument, so that of a
map is its value type. -/
def element? (type : TypeExpr) : Option TypeExpr := type.arguments.getLast?

/-- The array suffixes of an expression. -/
def suffixes : Nat → List Char
  | 0 => []
  | count + 1 => '[' :: ']' :: suffixes count

mutual

/-- The canonical form of an expression. -/
def chars : TypeExpr → List Char
  | ⟨name, arguments, dimensions⟩ =>
    name.toList ++ argumentChars arguments ++ suffixes dimensions

/-- The canonical form of an argument list, which is empty when there are no arguments. -/
def argumentChars : List TypeExpr → List Char
  | [] => []
  | first :: rest => '<' :: (chars first ++ furtherChars rest)

/-- The canonical form of the arguments after the first, with the bracket that closes them. -/
def furtherChars : List TypeExpr → List Char
  | [] => ['>']
  | next :: rest => ',' :: ' ' :: (chars next ++ furtherChars rest)

end

/-- The canonical text of an expression. -/
def text (type : TypeExpr) : String := String.ofList type.chars

instance : ToString TypeExpr := ⟨text⟩

end TypeExpr

end SchemaProjection
