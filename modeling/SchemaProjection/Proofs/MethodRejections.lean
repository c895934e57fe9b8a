import SchemaProjection.Proofs.MethodChoice

/-!
# Why a request is not resolved

A request that no candidate can answer is refused with the evidence on every candidate: a candidate
that declares methods of the requested name is rejected for the first of them, and it is told of
this method which of the three checks it fails first (`Mismatch`). Candidates without such a method
leave no trace but their names. The rejections follow the order of the candidates, one for each time
that one of them stands in the list (`resolve_refuses_with_evidence`).
-/
namespace SchemaProjection.MethodRequest

variable {request : MethodRequest} {model : Model} {provider : String}

/-- What is wrong with a method of the requested name: the result is of another type; or else there
are more or fewer parameters than requested; or else a parameter is of another type than requested,
and all before it are not. -/
inductive Mismatch (request : MethodRequest) (provider : String) (method : MethodDecl) :
    MethodFault → Prop
  /-- The result is of another type. -/
  | returns (differs : method.returns ≠ request.returns) :
      Mismatch request provider method
        (.returnType provider request.name request.returns method.returns)
  /-- The method has another number of parameters. -/
  | count (returns : method.returns = request.returns)
      (differs : method.params.length ≠ request.parameters.length) :
      Mismatch request provider method (.parameterCount provider request.name
        request.parameters.length method.params.length)
  /-- The parameter at a place, and none before it, is of another type. -/
  | parameter (returns : method.returns = request.returns)
      (count : method.params.length = request.parameters.length)
      {position : Nat} {expected found : TypeExpr}
      (requested : (request.parameters.map Prod.fst)[position]? = some expected)
      (declared : (method.params.map ParamDecl.type)[position]? = some found)
      (differs : found ≠ expected)
      (least : ∀ before < position,
        (method.params.map ParamDecl.type)[before]? = (request.parameters.map Prod.fst)[before]?) :
      Mismatch request provider method
        (.parameterType provider request.name position expected found)

/-- A type in the ancestry of a candidate declares a method of the requested name. -/
def NamedBy (request : MethodRequest) (model : Model) (candidate : String) : Prop :=
  ∃ decl ∈ model.ancestry candidate, ∃ method ∈ decl.methods, method.name = request.name

instance (request : MethodRequest) (model : Model) : DecidablePred (request.NamedBy model) :=
  fun candidate => inferInstanceAs (Decidable
    (∃ decl ∈ model.ancestry candidate, ∃ method ∈ decl.methods, method.name = request.name))

/-- A candidate is rejected for the first method of the requested name that it declares or
inherits: the first one of the closest type that declares any. -/
def RejectedFor (request : MethodRequest) (model : Model) (candidate : String)
    (rejection : MethodFault) : Prop :=
  ∃ decl method,
    IsFirst (fun decl => ∃ method ∈ decl.methods, method.name = request.name)
        (model.ancestry candidate) decl ∧
      IsFirst (fun method => method.name = request.name) decl.methods method ∧
        request.Mismatch candidate method rejection

/-- Of parameter lists of one length, the first difference is told with its place and with both
types there. -/
theorem differentParameter?_eq_some_iff {name : String} {position : Nat}
    {expected found : List TypeExpr} {fault : MethodFault}
    (lengths : found.length = expected.length) :
    differentParameter? provider name position expected found = some fault ↔
      ∃ place wanted given, expected[place]? = some wanted ∧ found[place]? = some given ∧
        given ≠ wanted ∧ (∀ before < place, found[before]? = expected[before]?) ∧
          fault = .parameterType provider name (position + place) wanted given := by
  induction expected generalizing found position with
  | nil => simp [differentParameter?]
  | cons first rest ih =>
    cases found with
    | nil => cases lengths
    | cons other others =>
      have lengths : others.length = rest.length := Nat.succ.inj lengths
      rw [differentParameter?]
      split
      next same =>
        rw [ih lengths]
        constructor
        · rintro ⟨place, wanted, given, there, here, differs, least, rfl⟩
          refine ⟨place + 1, wanted, given, there, here, differs, ?_, ?_⟩
          · rintro (_ | before) earlier
            · simp [same]
            · exact least before (Nat.lt_of_succ_lt_succ earlier)
          · rw [Nat.add_assoc, Nat.add_comm 1]
        · rintro ⟨_ | place, wanted, given, there, here, differs, least, rfl⟩
          · simp only [List.getElem?_cons_zero, Option.some.injEq] at there here
            exact absurd (here ▸ there ▸ same) differs
          · refine ⟨place, wanted, given, there, here, differs, ?_, ?_⟩
            · intro before earlier
              exact least (before + 1) (Nat.succ_lt_succ earlier)
            · rw [Nat.add_assoc, Nat.add_comm 1]
      next differs =>
        constructor
        · intro told
          obtain rfl := Option.some.inj told
          have least (before : Nat) (earlier : before < 0) :
              (other :: others)[before]? = (first :: rest)[before]? :=
            absurd earlier (Nat.not_lt_zero before)
          exact ⟨0, first, other, rfl, rfl, differs, least, rfl⟩
        · rintro ⟨_ | place, wanted, given, there, here, -, least, rfl⟩
          · simp only [List.getElem?_cons_zero, Option.some.injEq] at there here
            rw [here, there]
            rfl
          · have agree := least 0 (Nat.succ_pos place)
            simp only [List.getElem?_cons_zero, Option.some.injEq] at agree
            exact absurd agree differs

/-- A method of the requested name is rejected for what is wrong with it. -/
theorem rejection?_eq_some_iff {method : MethodDecl} {fault : MethodFault}
    (named : method.name = request.name) :
    request.rejection? provider method = some fault ↔ request.Mismatch provider method fault := by
  rw [rejection?, named]
  split
  next differs =>
    constructor
    · intro told
      obtain rfl := Option.some.inj told
      exact .returns differs
    · rintro (_ | ⟨returns, -⟩ | ⟨returns, -, -, -, -, -⟩)
      · rfl
      · exact absurd returns differs
      · exact absurd returns differs
  next returns =>
    rw [not_not] at returns
    split
    next differs =>
      constructor
      · intro told
        obtain rfl := Option.some.inj told
        exact .count returns differs
      · rintro (differs' | _ | ⟨-, count, -, -, -, -⟩)
        · exact absurd returns differs'
        · rfl
        · exact absurd count differs
    next count =>
      rw [not_not] at count
      have lengths : (method.params.map ParamDecl.type).length =
          (request.parameters.map Prod.fst).length := by simpa using count
      rw [differentParameter?_eq_some_iff lengths]
      constructor
      · rintro ⟨place, expected, found, requested, declared, differs, least, rfl⟩
        rw [Nat.zero_add]
        exact .parameter returns count requested declared differs least
      · rintro (differs | ⟨-, differs⟩ | ⟨-, -, requested, declared, differs, least⟩)
        · exact absurd returns differs
        · exact absurd count differs
        · exact ⟨_, _, _, requested, declared, differs, least, by rw [Nat.zero_add]⟩

/-- A candidate is rejected for its first method of the requested name. -/
theorem firstRejection?_eq_some_iff {rejection : MethodFault} :
    request.firstRejection? model provider = some rejection ↔
      request.RejectedFor model provider rejection := by
  have first (offer : String × MethodDecl) :
      (request.namesakes model provider).head? = some offer ↔
        ∃ decl, IsFirst (fun decl => ∃ method ∈ decl.methods, method.name = request.name)
            (model.ancestry provider) decl ∧
          IsFirst (fun method => method.name = request.name) decl.methods offer.2 ∧
            offer.1 = decl.name := by
    rw [← head?_offered_eq_some_iff]
    rfl
  rw [firstRejection?, Option.bind_eq_some_iff]
  constructor
  · rintro ⟨⟨declaredIn, method⟩, head, told⟩
    obtain ⟨decl, closest, chosen, -⟩ := (first _).mp head
    obtain ⟨-, -, -, named, -⟩ := id chosen
    exact ⟨decl, method, closest, chosen, (rejection?_eq_some_iff named).mp told⟩
  · rintro ⟨decl, method, closest, chosen, mismatch⟩
    obtain ⟨-, -, -, named, -⟩ := id chosen
    exact ⟨(decl.name, method), (first _).mpr ⟨decl, closest, chosen, rfl⟩,
      (rejection?_eq_some_iff named).mpr mismatch⟩

/-- A candidate that cannot answer is rejected for a method exactly when one has the requested
name. -/
theorem isSome_firstRejection?_iff (unprovided : ¬request.ProvidedBy model provider) :
    (request.firstRejection? model provider).isSome = true ↔ request.NamedBy model provider := by
  constructor
  · intro rejected
    obtain ⟨rejection, told⟩ := Option.isSome_iff_exists.mp rejected
    obtain ⟨decl, -, ⟨closer, further, ancestry, declares, -⟩, -⟩ :=
      firstRejection?_eq_some_iff.mp told
    exact ⟨decl, ancestry ▸ List.mem_append_right closer List.mem_cons_self, declares⟩
  · intro named
    obtain ⟨offer, offers, named⟩ := exists_offered.mpr named
    have listed : offer ∈ request.namesakes model provider :=
      List.mem_filter.mpr ⟨offers, beq_iff_eq.mpr named⟩
    obtain ⟨first, others, namesakes⟩ := List.exists_cons_of_ne_nil (List.ne_nil_of_mem listed)
    have member : first ∈ request.namesakes model provider := namesakes ▸ List.mem_cons_self
    obtain ⟨firstOffers, firstNamed⟩ := List.mem_filter.mp member
    have unfit : request.rejection? provider first.2 ≠ none := by
      rw [ne_eq, rejection?_eq_none_iff (beq_iff_eq.mp firstNamed)]
      exact fun fits => unprovided (exists_offered_iff.mp ⟨first, firstOffers, fits⟩)
    rw [firstRejection?, namesakes]
    exact Option.isSome_iff_ne_none.mpr unfit

/-- The values of a partial function on a list are its values on those members on which it has
one. -/
theorem forall₂_filter_iff {α β : Type} {value? : α → Option β} {holds : α → Prop}
    [DecidablePred holds] {members : List α} {values : List β}
    (defined : ∀ member ∈ members, (value? member).isSome = true ↔ holds member) :
    List.Forall₂ (fun member value => value? member = some value) (members.filter (holds ·))
        values ↔
      values = members.filterMap value? := by
  induction members generalizing values with
  | nil => simp
  | cons member rest ih =>
    have later (values : List β) :
        List.Forall₂ (fun member value => value? member = some value) (rest.filter (holds ·))
          values ↔ values = rest.filterMap value? :=
      ih fun other listed => defined other (List.mem_cons_of_mem _ listed)
    have here := defined member List.mem_cons_self
    cases given : value? member with
    | none =>
      have unheld : ¬holds member := fun held => by simpa [given] using here.mpr held
      rw [List.filter_cons_of_neg (by simpa using unheld), List.filterMap_cons_none given, later]
    | some value =>
      have held : holds member := here.mp (by rw [given]; rfl)
      rw [List.filter_cons_of_pos (by simpa using held), List.filterMap_cons_some given,
        List.forall₂_cons_left_iff]
      constructor
      · rintro ⟨first, further, told, matched, rfl⟩
        rw [(later further).mp matched, ← Option.some.inj (given.symm.trans told)]
      · rintro rfl
        exact ⟨value, _, given, (later _).mpr rfl, rfl⟩

/-- A request fails exactly when no candidate has a method that fits, and then with the evidence on
all of them: the fault lists the candidates in order, and one rejection for each of them, in the
same order, whose ancestry declares a method of the requested name; the rejection tells of the first
such method what is wrong with it. -/
theorem resolve_refuses_with_evidence (request : MethodRequest) (model : Model)
    (candidates : List String) (fault : MethodFault) :
    request.resolve model candidates = .error fault ↔
      (∀ candidate ∈ candidates, ¬request.ProvidedBy model candidate) ∧
        ∃ rejections,
          fault = .noMatch request.view request.field request.text candidates rejections ∧
            List.Forall₂ (request.RejectedFor model) (candidates.filter (request.NamedBy model ·))
              rejections := by
  rw [resolve_eq_error_iff]
  refine and_congr_right fun unprovided => ?_
  have told : ∀ rejections,
      List.Forall₂ (request.RejectedFor model) (candidates.filter (request.NamedBy model ·))
          rejections ↔ rejections = candidates.filterMap (request.firstRejection? model) := by
    intro rejections
    rw [← forall₂_filter_iff fun candidate listed =>
      isSome_firstRejection?_iff (unprovided candidate listed)]
    simp only [firstRejection?_eq_some_iff]
  constructor
  · rintro rfl
    exact ⟨_, rfl, (told _).mpr rfl⟩
  · rintro ⟨rejections, rfl, evidence⟩
    rw [(told rejections).mp evidence]

end SchemaProjection.MethodRequest
