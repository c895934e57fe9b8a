import SchemaProjection.Diagnostic
import SchemaProjection.Model.Ancestry
import SchemaProjection.Text.UpperCase

/-!
# Methods of computed fields

A computed field asks for a method by name, result and parameter types. The providers are tried
in order; each offers its own methods and those it inherits, the closest first. The first
method that agrees in all types is taken. Methods of the right name that do not agree never
stand in the way of one that does; when none does, the first of them in every provider tells why.

Where a field names no method, the method is called after the field. What stands before the name of
the field in it is its lead, the `method_prefix` of the settings.
-/
namespace SchemaProjection

/-- `MethodSignature` — a method that was found. -/
structure Signature where
  /-- The provider that was tried. -/
  provider : String
  /-- The provider or supertype of it that declares the method. -/
  declaredIn : String
  /-- The name of the method. -/
  name : String
  /-- The type of the result. -/
  returns : TypeExpr
  /-- The types of the parameters. -/
  parameters : List TypeExpr
  /-- The method needs no instance. -/
  isStatic : Bool
deriving Repr, DecidableEq

/-- A signature on a line. -/
def Signature.text (signature : Signature) : String :=
  signature.returns.text ++ " " ++ signature.provider ++ "." ++ signature.name ++ "(" ++
    Text.joined ", " (signature.parameters.map TypeExpr.text) ++ ")"

/-- `MethodRequest` — what a computed field asks of its providers. -/
structure MethodRequest where
  /-- The view of the field. -/
  view : String
  /-- The field. -/
  field : String
  /-- The name of the method. -/
  name : String
  /-- The type of the result. -/
  returns : TypeExpr
  /-- The types of the parameters, with names for them. -/
  parameters : List (TypeExpr × String)
deriving Repr, DecidableEq

/-- `MethodRequest::signature_text` — the requested method as it would be declared. -/
def MethodRequest.text (request : MethodRequest) : String :=
  let parameters := request.parameters.map fun (type, name) => type.text ++ " " ++ name
  request.returns.text ++ " " ++ request.name ++ "(" ++ Text.joined ", " parameters ++ ")"

/-- `convention_name` — the name of the method of a field for which none is named: the field behind
the lead, the `method_prefix` of the settings. -/
def conventionalName (lead field : String) : String := lead ++ Text.capitalize field

/-- `MethodError` — why a request has no method, or why a method is not the requested one. -/
inductive MethodFault where
  /-- No provider has the requested method. -/
  | noMatch (view field expected : String) (candidates : List String)
      (rejections : List MethodFault)
  /-- A method has another result. -/
  | returnType (provider method : String) (expected found : TypeExpr)
  /-- A method has another number of parameters. -/
  | parameterCount (provider method : String) (expected found : Nat)
  /-- A method has another parameter at a place. -/
  | parameterType (provider method : String) (position : Nat) (expected found : TypeExpr)
deriving Repr

namespace MethodFault

/-- The code of a fault. -/
def code : MethodFault → Code
  | .noMatch _ _ _ _ _ => .noMatchingMethod
  | .returnType _ _ _ _ => .returnType
  | .parameterCount _ _ _ _ => .parameterCount
  | .parameterType _ _ _ _ _ => .parameterType

/-- The message of a fault. -/
def message : MethodFault → String
  | .noMatch view field expected _ _ =>
    s!"No provider of {view} declares \x60{expected}\x60 for computed field {field}"
  | .returnType provider method expected found =>
    s!"{provider}.{method} returns {found.text}, expected {expected.text}"
  | .parameterCount provider method expected found =>
    s!"{provider}.{method} takes {found} parameter(s), expected {expected}"
  | .parameterType provider method position expected found =>
    s!"{provider}.{method} parameter {position} is {found.text}, expected {expected.text}"

/-- The providers that were tried, the requested method, and the methods that were rejected. -/
def context : MethodFault → List String
  | .noMatch _ _ expected candidates rejections =>
    let tried := if candidates.isEmpty then "none declared" else Text.joined ", " candidates
    s!"candidates tried: {tried}" :: s!"expected signature: {expected}" ::
      rejections.map fun rejection => "rejected: " ++ rejection.message
  | _ => []

/-- What is said of a fault. -/
def remark (fault : MethodFault) : Remark := ⟨fault.code, fault.message, fault.context⟩

end MethodFault

namespace MethodRequest

/-- The first place at which parameters have another type than requested. -/
def differentParameter? (provider method : String) (position : Nat) :
    List TypeExpr → List TypeExpr → Option MethodFault
  | expected :: expectedRest, found :: foundRest =>
    if found = expected then
      differentParameter? provider method (position + 1) expectedRest foundRest
    else some (.parameterType provider method position expected found)
  | _, _ => none

/-- `MethodRequest::check` — why a method of a provider is not the requested one, apart from its
name. -/
def rejection? (request : MethodRequest) (provider : String) (method : MethodDecl) :
    Option MethodFault :=
  if method.returns ≠ request.returns then
    some (.returnType provider method.name request.returns method.returns)
  else if method.params.length ≠ request.parameters.length then
    some (.parameterCount provider method.name request.parameters.length method.params.length)
  else
    differentParameter? provider method.name 0 (request.parameters.map (·.1))
      (method.params.map ParamDecl.type)

/-- The methods of a type and its supertypes with the names of the types that declare them. -/
def offered (model : Model) (provider : String) : List (String × MethodDecl) :=
  (model.ancestry provider).flatMap fun decl => decl.methods.map (decl.name, ·)

/-- The methods of the requested name that a provider offers. -/
def namesakes (request : MethodRequest) (model : Model) (provider : String) :
    List (String × MethodDecl) :=
  (offered model provider).filter fun (_, method) => method.name == request.name

/-- `MethodResolver::match_candidate`, where it finds one — the requested method of a provider. -/
def matching? (request : MethodRequest) (model : Model) (provider : String) : Option Signature :=
  ((request.namesakes model provider).find? fun (_, method) =>
      (request.rejection? provider method).isNone).map fun (declaredIn, method) =>
    ⟨provider, declaredIn, method.name, method.returns, method.params.map ParamDecl.type,
      method.isStatic⟩

/-- `MethodResolver::match_candidate`, where it finds none — why a provider is not taken: its first
method of the requested name, if it has one. -/
def firstRejection? (request : MethodRequest) (model : Model) (provider : String) :
    Option MethodFault :=
  ((request.namesakes model provider).head?).bind fun (_, method) =>
    request.rejection? provider method

/-- `MethodResolver::resolve` — the requested method of the first provider that has it. -/
def resolve (request : MethodRequest) (model : Model) (providers : List String) :
    Except MethodFault Signature :=
  match providers.findSome? (request.matching? model) with
  | some signature => .ok signature
  | none =>
    .error (.noMatch request.view request.field request.text providers
      (providers.filterMap (request.firstRejection? model)))

end MethodRequest

end SchemaProjection
