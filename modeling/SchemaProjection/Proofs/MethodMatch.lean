import Mathlib.Logic.Basic
import SchemaProjection.Method

/-!
# The first method that fits

A method fits a request when its name, its result and its whole list of parameter types are the
requested ones. The checks that a method goes through one after the other amount to this, and
the three nested scans over providers, their ancestries and their methods find the first method
that fits: no provider before the one that was taken offers any, and neither does what that
provider offers before the method.
-/
namespace SchemaProjection.MethodRequest

/-- A method of the requested name, result and parameter types. -/
structure Fits (request : MethodRequest) (method : MethodDecl) : Prop where
  /-- The name is the requested one. -/
  name : method.name = request.name
  /-- The result is of the requested type. -/
  returns : method.returns = request.returns
  /-- The parameters are of the requested types, in order and no more of them. -/
  parameters : method.params.map ParamDecl.type = request.parameters.map Prod.fst

/-- A type in the ancestry of a provider declares a method that fits. -/
def ProvidedBy (request : MethodRequest) (model : Model) (provider : String) : Prop :=
  ∃ decl ∈ model.ancestry provider, ∃ method ∈ decl.methods, request.Fits method

/-- A signature is that of the first method that fits: in the first provider that has one, and
there in the closest type and in the order of its methods. -/
def FirstMatch (request : MethodRequest) (model : Model) (providers : List String)
    (signature : Signature) : Prop :=
  ∃ earlier provider later, providers = earlier ++ provider :: later ∧
    (∀ other ∈ earlier, ¬request.ProvidedBy model other) ∧
    ∃ before declaredIn method after,
      offered model provider = before ++ (declaredIn, method) :: after ∧
      (∀ offer ∈ before, ¬request.Fits offer.2) ∧ request.Fits method ∧
      signature = ⟨provider, declaredIn, request.name, request.returns,
        request.parameters.map Prod.fst, method.isStatic⟩

/-- Two parameter lists of one length without a difference are the same. -/
theorem differentParameter?_eq_none_iff {provider method : String} {position : Nat}
    {expected found : List TypeExpr} (lengths : found.length = expected.length) :
    differentParameter? provider method position expected found = none ↔ found = expected := by
  induction expected generalizing found position with
  | nil =>
    obtain rfl : found = [] := List.eq_nil_of_length_eq_zero lengths
    simp [differentParameter?]
  | cons first rest ih =>
    cases found with
    | nil => cases lengths
    | cons other others =>
      have lengths : others.length = rest.length := Nat.succ.inj lengths
      rw [differentParameter?, List.cons.injEq]
      split
      next same => simp [same, ih lengths]
      next differs => simp [differs]

/-- A method of the requested name is not rejected exactly when it fits. -/
theorem rejection?_eq_none_iff {request : MethodRequest} {provider : String}
    {method : MethodDecl} (named : method.name = request.name) :
    request.rejection? provider method = none ↔ request.Fits method := by
  rw [rejection?]
  split
  next differs =>
    simp only [reduceCtorEq, false_iff]
    exact fun fits => differs fits.returns
  next returns =>
    split
    next differs =>
      simp only [reduceCtorEq, false_iff]
      exact fun fits => differs (by simpa using congrArg List.length fits.parameters)
    next count =>
      rw [not_not] at returns count
      rw [differentParameter?_eq_none_iff (by simpa using count)]
      exact ⟨fun parameters => ⟨named, returns, parameters⟩, Fits.parameters⟩

/-- The test on an offered method that is searched for. -/
theorem offer_taken_iff {request : MethodRequest} (provider : String)
    (offer : String × MethodDecl) :
    (offer.2.name == request.name) = true ∧ (request.rejection? provider offer.2).isNone = true ↔
      request.Fits offer.2 := by
  rw [beq_iff_eq, Option.isNone_iff_eq_none]
  constructor
  · rintro ⟨named, accepted⟩
    exact (rejection?_eq_none_iff named).mp accepted
  · intro fits
    exact ⟨fits.name, (rejection?_eq_none_iff fits.name).mpr fits⟩

/-- A provider offers what the types of its ancestry declare. -/
theorem exists_offered {holds : MethodDecl → Prop} {model : Model} {provider : String} :
    (∃ offer ∈ offered model provider, holds offer.2) ↔
      ∃ decl ∈ model.ancestry provider, ∃ method ∈ decl.methods, holds method := by
  simp only [offered, List.mem_flatMap, List.mem_map]
  constructor
  · rintro ⟨_, ⟨decl, inherited, method, declared, rfl⟩, held⟩
    exact ⟨decl, inherited, method, declared, held⟩
  · rintro ⟨decl, inherited, method, declared, held⟩
    exact ⟨_, ⟨decl, inherited, method, declared, rfl⟩, held⟩

/-- A provider offers a method that fits exactly when a type of its ancestry declares one. -/
theorem exists_offered_iff {request : MethodRequest} {model : Model} {provider : String} :
    (∃ offer ∈ offered model provider, request.Fits offer.2) ↔
      request.ProvidedBy model provider :=
  exists_offered

/-- A provider has the requested method exactly when a method that fits is the first one it
offers. -/
theorem matching?_eq_some_iff {request : MethodRequest} {model : Model} {provider : String}
    {signature : Signature} :
    request.matching? model provider = some signature ↔
      ∃ before declaredIn method after,
        offered model provider = before ++ (declaredIn, method) :: after ∧
        (∀ offer ∈ before, ¬request.Fits offer.2) ∧ request.Fits method ∧
        signature = ⟨provider, declaredIn, request.name, request.returns,
          request.parameters.map Prod.fst, method.isStatic⟩ := by
  simp only [matching?, namesakes, List.find?_filter, Option.map_eq_some_iff,
    List.find?_eq_some_iff_append, Bool.not_eq_true', decide_eq_true_eq, decide_eq_false_iff_not]
  constructor
  · rintro ⟨⟨declaredIn, method⟩, ⟨taken, before, after, parts, passed⟩, rfl⟩
    have fits : request.Fits method := (offer_taken_iff provider (declaredIn, method)).mp taken
    refine ⟨before, declaredIn, method, after, parts, ?_, fits, ?_⟩
    · exact fun offer earlier accepted =>
        passed offer earlier ((offer_taken_iff provider offer).mpr accepted)
    · simp only [fits.name, fits.returns, fits.parameters]
  · rintro ⟨before, declaredIn, method, after, parts, passed, fits, rfl⟩
    have taken := (offer_taken_iff provider (declaredIn, method)).mpr fits
    refine ⟨(declaredIn, method), ⟨taken, before, after, parts, ?_⟩, ?_⟩
    · exact fun offer earlier taken =>
        passed offer earlier ((offer_taken_iff provider offer).mp taken)
    · simp only [fits.name, fits.returns, fits.parameters]

/-- A provider has no requested method exactly when no type of its ancestry declares one that
fits. -/
theorem matching?_eq_none_iff {request : MethodRequest} {model : Model} {provider : String} :
    request.matching? model provider = none ↔ ¬request.ProvidedBy model provider := by
  rw [← exists_offered_iff, matching?, Option.map_eq_none_iff, namesakes, List.find?_filter,
    List.find?_eq_none]
  simp only [decide_eq_true_eq]
  constructor
  · rintro passed ⟨offer, offers, fits⟩
    exact passed offer offers ((offer_taken_iff provider offer).mpr fits)
  · intro absent offer offers taken
    exact absent ⟨offer, offers, (offer_taken_iff provider offer).mp taken⟩

/-- A request is resolved by the first method that fits. -/
theorem resolve_eq_ok_iff {request : MethodRequest} {model : Model} {providers : List String}
    {signature : Signature} :
    request.resolve model providers = .ok signature ↔
      request.FirstMatch model providers signature := by
  have found : request.resolve model providers = .ok signature ↔
      providers.findSome? (request.matching? model) = some signature := by
    rw [resolve]
    cases providers.findSome? (request.matching? model) <;> simp
  rw [found, List.findSome?_eq_some_iff, FirstMatch]
  simp only [matching?_eq_none_iff, matching?_eq_some_iff]
  constructor
  · rintro ⟨earlier, provider, later, parts, taken, passed⟩
    exact ⟨earlier, provider, later, parts, passed, taken⟩
  · rintro ⟨earlier, provider, later, parts, passed, taken⟩
    exact ⟨earlier, provider, later, parts, taken, passed⟩

/-- A request fails exactly when no provider has a method that fits, and then tells what was asked
for, who was asked, and why each provider was not taken. -/
theorem resolve_eq_error_iff {request : MethodRequest} {model : Model} {providers : List String}
    {fault : MethodFault} :
    request.resolve model providers = .error fault ↔
      (∀ provider ∈ providers, ¬request.ProvidedBy model provider) ∧
        fault = .noMatch request.view request.field request.text providers
          (providers.filterMap (request.firstRejection? model)) := by
  simp only [← matching?_eq_none_iff, ← List.findSome?_eq_none_iff]
  rw [resolve]
  cases providers.findSome? (request.matching? model) <;> simp [@eq_comm _ fault]

/-- A request is resolved exactly when some provider has a method that fits. -/
theorem exists_resolve_eq_ok_iff {request : MethodRequest} {model : Model}
    {providers : List String} :
    (∃ signature, request.resolve model providers = .ok signature) ↔
      ∃ provider ∈ providers, request.ProvidedBy model provider := by
  have found : (∃ signature, request.resolve model providers = .ok signature) ↔
      (providers.findSome? (request.matching? model)).isSome = true := by
    rw [resolve]
    cases providers.findSome? (request.matching? model) <;> simp
  rw [found, List.findSome?_isSome_iff]
  refine exists_congr fun provider => and_congr_right fun _ => ?_
  rw [← Option.ne_none_iff_isSome, ne_eq, matching?_eq_none_iff, not_not]

end SchemaProjection.MethodRequest
