import SchemaProjection.Proofs.Inheritance
import SchemaProjection.Proofs.MethodMatch

/-!
# Which method is chosen

A request is resolved if any candidate has a method that fits, and then by the first: the first
candidate that has one, in its ancestry the closest type that declares one, and of that type the
first method that fits (`MethodRequest.Chosen`). What else the types declare plays no part, so
models whose declarations have the same methods that fit resolve the request alike
(`MethodRequest.AlikeFor`).
-/
namespace SchemaProjection

/-- The first of some values of which something holds. -/
def IsFirst {α : Type} (holds : α → Prop) (values : List α) (value : α) : Prop :=
  ∃ before after, values = before ++ value :: after ∧ holds value ∧ ∀ other ∈ before, ¬holds other

/-- The first value of which something holds is the one at the head of all of which it holds. -/
theorem isFirst_iff_head?_filter {α : Type} {holds : α → Prop} [DecidablePred holds]
    {values : List α} {value : α} :
    IsFirst holds values value ↔ (values.filter (holds ·)).head? = some value := by
  simp only [List.head?_filter, List.find?_eq_some_iff_append, decide_eq_true_eq,
    Bool.not_eq_true', decide_eq_false_iff_not, IsFirst]
  constructor
  · rintro ⟨before, after, parts, held, passed⟩
    exact ⟨held, before, after, parts, passed⟩
  · rintro ⟨held, before, after, parts, passed⟩
    exact ⟨before, after, parts, held, passed⟩

namespace MethodRequest

variable {request : MethodRequest} {model : Model} {provider : String}

/-- Whether a method fits can be decided by comparing names and types. -/
instance (request : MethodRequest) : DecidablePred request.Fits := fun method =>
  decidable_of_iff
    (method.name = request.name ∧ method.returns = request.returns ∧
      method.params.map ParamDecl.type = request.parameters.map Prod.fst)
    ⟨fun ⟨name, returns, parameters⟩ => ⟨name, returns, parameters⟩,
      fun fits => ⟨fits.name, fits.returns, fits.parameters⟩⟩

/-- What of a declaration counts for a request: its name, its supertype and its methods that
fit. -/
def fittingPart (request : MethodRequest) (decl : TypeDecl) :
    String × Option String × List MethodDecl :=
  (decl.name, decl.parent, decl.methods.filter (request.Fits ·))

/-- In two models every name has declarations with the same methods that fit, or none. -/
def AlikeFor (request : MethodRequest) (left right : Model) : Prop :=
  ∀ name, (left.lookup name).map request.fittingPart = (right.lookup name).map request.fittingPart

/-- The methods of a provider that fit, with the names of the types that declare them. -/
def fitting (request : MethodRequest) (model : Model) (provider : String) :
    List (String × MethodDecl) :=
  (model.ancestry provider).flatMap fun decl =>
    (decl.methods.filter (request.Fits ·)).map (decl.name, ·)

/-- The methods of a provider that fit are those of its offered methods that do. -/
theorem filter_offered (request : MethodRequest) (model : Model) (provider : String) :
    (offered model provider).filter (request.Fits ·.2) = request.fitting model provider := by
  simp only [offered, fitting, List.filter_flatMap, List.filter_map]
  rfl

/-- A provider has the requested method exactly when some of its methods fit. -/
theorem providedBy_iff_fitting :
    request.ProvidedBy model provider ↔ request.fitting model provider ≠ [] := by
  rw [← exists_offered_iff, ← filter_offered, ne_eq, List.filter_eq_nil_iff]
  simp

/-- The first match is the first of the methods that fit of the first provider that has any. -/
theorem firstMatch_iff {providers : List String} {signature : Signature} :
    request.FirstMatch model providers signature ↔
      ∃ provider offer, IsFirst (request.ProvidedBy model) providers provider ∧
        (request.fitting model provider).head? = some offer ∧
        signature = ⟨provider, offer.1, request.name, request.returns,
          request.parameters.map Prod.fst, offer.2.isStatic⟩ := by
  simp only [← filter_offered, ← isFirst_iff_head?_filter]
  constructor
  · rintro ⟨earlier, provider, later, parts, passed, before, type, method, after, offers, unfit,
      fits, same⟩
    have offered : (type, method) ∈ offered model provider :=
      offers ▸ List.mem_append_right before List.mem_cons_self
    have provides : request.ProvidedBy model provider := exists_offered_iff.mp ⟨_, offered, fits⟩
    exact ⟨provider, (type, method), ⟨earlier, later, parts, provides, passed⟩,
      ⟨before, after, offers, fits, unfit⟩, same⟩
  · rintro ⟨provider, ⟨type, method⟩, ⟨earlier, later, parts, -, passed⟩,
      ⟨before, after, offers, fits, unfit⟩, same⟩
    exact ⟨earlier, provider, later, parts, passed, before, type, method, after, offers, unfit,
      fits, same⟩

/-- The first offered method of which something holds is that of the closest type that declares one,
and there the first. -/
theorem head?_offered_eq_some_iff {holds : MethodDecl → Prop} [DecidablePred holds]
    {offer : String × MethodDecl} :
    ((offered model provider).filter (holds ·.2)).head? = some offer ↔
      ∃ decl, IsFirst (fun decl => ∃ method ∈ decl.methods, holds method)
          (model.ancestry provider) decl ∧
        IsFirst holds decl.methods offer.2 ∧ offer.1 = decl.name := by
  have parts : (offered model provider).filter (holds ·.2) = (model.ancestry provider).flatMap
      fun decl => (decl.methods.filter (holds ·)).map (decl.name, ·) := by
    simp only [offered, List.filter_flatMap, List.filter_map]
    rfl
  have own (decl : TypeDecl) :
      ((decl.methods.filter (holds ·)).map (decl.name, ·)).head? = some offer ↔
        IsFirst holds decl.methods offer.2 ∧ offer.1 = decl.name := by
    rw [isFirst_iff_head?_filter, List.head?_map, Option.map_eq_some_iff]
    constructor
    · rintro ⟨method, first, rfl⟩
      exact ⟨first, rfl⟩
    · rintro ⟨first, named⟩
      exact ⟨offer.2, first, Prod.ext named.symm rfl⟩
  have undeclared (decl : TypeDecl) :
      ((decl.methods.filter (holds ·)).map (decl.name, ·)).head? = none ↔
        ¬∃ method ∈ decl.methods, holds method := by
    simp
  simp only [parts, List.head?_flatMap, List.findSome?_eq_some_iff, own, undeclared]
  constructor
  · rintro ⟨closer, decl, further, split, first, passed⟩
    obtain ⟨before, after, methods, held, -⟩ := id first.1
    have declared : offer.2 ∈ decl.methods :=
      methods ▸ List.mem_append_right before List.mem_cons_self
    exact ⟨decl, ⟨closer, further, split, ⟨offer.2, declared, held⟩, passed⟩, first⟩
  · rintro ⟨decl, ⟨closer, further, split, -, passed⟩, first⟩
    exact ⟨closer, decl, further, split, first, passed⟩

/-- The first method that fits is that of the closest type that has any, and there the first. -/
theorem head?_fitting_eq_some_iff {offer : String × MethodDecl} :
    (request.fitting model provider).head? = some offer ↔
      ∃ decl, IsFirst (fun decl => ∃ method ∈ decl.methods, request.Fits method)
          (model.ancestry provider) decl ∧
        IsFirst request.Fits decl.methods offer.2 ∧ offer.1 = decl.name := by
  rw [← filter_offered]
  exact head?_offered_eq_some_iff

/-- Models that are alike for a request have the same methods that fit. -/
theorem AlikeFor.fitting {left right : Model} (alike : request.AlikeFor left right)
    (provider : String) : request.fitting left provider = request.fitting right provider := by
  have parts (model : Model) : request.fitting model provider =
      ((model.ancestry provider).map request.fittingPart).flatMap
        fun part => part.2.2.map (part.1, ·) := by
    rw [List.flatMap_map]
    rfl
  have determines (first second : TypeDecl)
      (same : request.fittingPart first = request.fittingPart second) :
      first.name = second.name ∧ first.parent = second.parent :=
    ⟨(congrArg Prod.fst same :), (congrArg (·.2.1) same :)⟩
  rw [parts left, parts right, Model.ancestry_map_congr _ _ determines alike]

/-- Models that are alike for a request resolve it alike. -/
theorem AlikeFor.resolve_eq_ok_iff {left right : Model} (alike : request.AlikeFor left right)
    {providers : List String} {signature : Signature} :
    request.resolve left providers = .ok signature ↔
      request.resolve right providers = .ok signature := by
  have provided : request.ProvidedBy left = request.ProvidedBy right :=
    funext fun provider => by
      rw [eq_iff_iff, providedBy_iff_fitting, providedBy_iff_fitting, alike.fitting]
  simp only [MethodRequest.resolve_eq_ok_iff, firstMatch_iff, alike.fitting, provided]

/-- A signature is the chosen one among the methods of some candidates. -/
structure Chosen (request : MethodRequest) (model : Model) (candidates : List String)
    (signature : Signature) : Prop where
  /-- The provider is the first candidate that has a method that fits. -/
  provider : IsFirst (request.ProvidedBy model) candidates signature.provider
  /-- The method is declared in the closest type of the ancestry of the provider that declares one
  that fits, and there it is the first. -/
  declared : ∃ decl method,
    IsFirst (fun decl => ∃ method ∈ decl.methods, request.Fits method)
        (model.ancestry signature.provider) decl ∧
      IsFirst request.Fits decl.methods method ∧
      signature.declaredIn = decl.name ∧ signature.isStatic = method.isStatic
  /-- The name is the requested one. -/
  name : signature.name = request.name
  /-- The result is the requested one. -/
  returns : signature.returns = request.returns
  /-- The parameters are the requested ones. -/
  parameters : signature.parameters = request.parameters.map Prod.fst

/-- The chosen signature is that of the first match. -/
theorem firstMatch_iff_chosen {candidates : List String} {signature : Signature} :
    request.FirstMatch model candidates signature ↔ request.Chosen model candidates signature := by
  simp only [firstMatch_iff, head?_fitting_eq_some_iff]
  constructor
  · rintro ⟨provider, ⟨type, method⟩, first, ⟨decl, closest, taken, rfl⟩, rfl⟩
    exact ⟨first, ⟨decl, method, closest, taken, rfl, rfl⟩, rfl, rfl, rfl⟩
  · rintro ⟨first, ⟨decl, method, closest, taken, declaredIn, isStatic⟩, name, returns, parameters⟩
    refine ⟨signature.provider, (decl.name, method), first, ⟨decl, closest, taken, rfl⟩, ?_⟩
    cases signature
    simp_all

/-- Methods are resolved exactly and the first that fits is chosen. A request is resolved if and
only if the ancestry of some candidate declares a method of the requested name, result and whole
list of parameter types, and the signature is that of the first such method. Methods that do not
fit, whatever their names and wherever they are declared, neither prevent nor alter this: in all
models whose types have the same supertypes and the same methods that fit, the request is
resolved by the same signature. -/
theorem resolve_chooses_first (request : MethodRequest) (model : Model)
    (candidates : List String) :
    ((∃ signature, request.resolve model candidates = .ok signature) ↔
        ∃ candidate ∈ candidates, ∃ decl ∈ model.ancestry candidate, ∃ method ∈ decl.methods,
          method.name = request.name ∧ method.returns = request.returns ∧
            method.params.map ParamDecl.type = request.parameters.map Prod.fst) ∧
      (∀ signature, request.resolve model candidates = .ok signature ↔
        request.Chosen model candidates signature) ∧
      ∀ other, request.AlikeFor model other → ∀ signature,
        request.resolve other candidates = .ok signature ↔
          request.resolve model candidates = .ok signature := by
  refine ⟨?_, fun signature => ?_, fun other alike signature => alike.resolve_eq_ok_iff.symm⟩
  · rw [exists_resolve_eq_ok_iff]
    refine exists_congr fun candidate => and_congr_right fun _ => ?_
    refine exists_congr fun decl => and_congr_right fun _ => ?_
    refine exists_congr fun method => and_congr_right fun _ => ?_
    exact ⟨fun fits => ⟨fits.name, fits.returns, fits.parameters⟩,
      fun ⟨name, returns, parameters⟩ => ⟨name, returns, parameters⟩⟩
  · rw [MethodRequest.resolve_eq_ok_iff, firstMatch_iff_chosen]

end MethodRequest

end SchemaProjection
