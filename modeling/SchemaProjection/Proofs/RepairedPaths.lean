import SchemaProjection.Proofs.PathComposition
import SchemaProjection.Proofs.Resolution
import SchemaProjection.Proofs.Scores
import SchemaProjection.Proofs.Walks

/-!
# Repaired paths

The field that is suggested for a segment repairs the path: with it in place of the segment the path
leads past the place at which it failed. Nothing in this depends on how names are scored, so paths
are followed with the suggestions of any scorer (`Text.suggestionBy`), of which the running one is a
case (`Text.suggestion?_eq`). A path fails for the want of a field behind segments that lead to the
type in question (`Navigation.Leads`). They lead there in the repaired path as well, and the
repaired path is divided into the segments that were put together as long as no field has a dot in
its name.
-/
namespace SchemaProjection

/-- No registered field has a dot in its name. -/
def Registry.UndottedFields (registry : Registry) : Prop :=
  ∀ type ∈ registry.types, ∀ name ∈ type.2.2.names, Text.pathSeparator ∉ name.toList

/-- A field that is found has no dot in its name. -/
theorem Registry.UndottedFields.of_lookup {registry : Registry} {type name : String}
    {fields : Table Field} (undotted : registry.UndottedFields)
    (found : registry.lookup type = some fields) (listed : name ∈ fields.names) :
    Text.pathSeparator ∉ name.toList := by
  obtain ⟨role, held⟩ := Registry.mem_types_iff.mpr
    ((Option.or_eq_some_iff.mp found).imp_right And.right)
  exact undotted _ held name listed

namespace Navigation

/-- Segments lead from a type to another one, over fields that are no scalars. -/
inductive Leads (navigation : Navigation) : String → List String → String → Prop
  /-- No segment leads anywhere else. -/
  | stay {type : String} : Leads navigation type [] type
  /-- The first segment leads to a field, and the others from its type on. -/
  | go {type segment other : String} {rest : List String} {field : Field}
    (looked : navigation.registry.field? type segment = some field)
    (goes : navigation.classifier.kindOf field.relatedType ≠ .scalar)
    (behind : Leads navigation field.relatedType rest other) :
    Leads navigation type (segment :: rest) other

variable {navigation : Navigation} {score : Text.Scorer}

/-- Behind segments that lead to a type, the others are followed from there. -/
theorem Leads.follow {type other segment next : String} {front back rest : List String}
    {suggest : Text.Suggester} (leads : navigation.Leads type front other) (path : String)
    (divided : front ++ next :: back = segment :: rest) :
    navigation.follow path type segment rest suggest =
      navigation.follow path other next back suggest := by
  induction leads generalizing segment rest with
  | stay =>
    cases divided
    rfl
  | @go type first other front field looked goes _ ih =>
    obtain ⟨rfl, rfl⟩ := List.cons.inj divided
    have nonempty : front ++ next :: back ≠ [] :=
      List.append_ne_nil_of_right_ne_nil _ (List.cons_ne_nil _ _)
    obtain ⟨second, further, later⟩ := List.exists_cons_of_ne_nil nonempty
    change navigation.follow path type first (front ++ next :: back) suggest = _
    rw [later, follow_cons, fieldAt_eq_ok_iff_field?.mpr looked]
    exact (if_neg goes).trans (ih later)

/-- A segment for which a field is suggested names none itself, and the suggested field is one of
the type. -/
theorem fieldAt_eq_suggests {path type segment missing other reported name : String}
    {suggest : Text.Suggester}
    (fails : navigation.fieldAt path type segment suggest =
      .error (.unknownField missing other reported (some name))) :
    missing = segment ∧ other = type ∧ reported = path ∧
      ∃ fields, navigation.registry.lookup type = some fields ∧ fields.find? segment = none ∧
        suggest fields.names segment = some name := by
  rw [fieldAt] at fails
  cases found : navigation.registry.lookup type with
  | none => simp [found] at fails
  | some fields =>
    cases listed : fields.find? segment with
    | some field => simp [found, listed] at fails
    | none =>
      simp only [found, listed, Except.error.injEq, PathFault.unknownField.injEq,
        Option.ite_none_right_eq_some] at fails
      obtain ⟨rfl, rfl, rfl, -, suggested⟩ := fails
      exact ⟨rfl, rfl, rfl, fields, rfl, listed, suggested⟩

/-- Segments for which a field is suggested lead to its type, and the next of them names none. -/
theorem follow_eq_suggests {path type segment missing other reported name : String}
    {rest : List String} {suggest : Text.Suggester}
    (fails : navigation.follow path type segment rest suggest =
      .error (.unknownField missing other reported (some name))) :
    reported = path ∧ ∃ front back fields, segment :: rest = front ++ missing :: back ∧
      navigation.Leads type front other ∧ navigation.registry.lookup other = some fields ∧
        fields.find? missing = none ∧ suggest fields.names missing = some name := by
  induction rest generalizing type segment with
  | nil =>
    obtain ⟨rfl, rfl, rfl, fields, found, unlisted, suggested⟩ := fieldAt_eq_suggests fails
    exact ⟨rfl, [], [], fields, rfl, .stay, found, unlisted, suggested⟩
  | cons next rest ih =>
    rw [follow_cons] at fails
    cases looked : navigation.fieldAt path type segment suggest with
    | error fault =>
      rw [looked] at fails
      obtain ⟨rfl, rfl, rfl, fields, found, unlisted, suggested⟩ :=
        fieldAt_eq_suggests (looked.trans fails)
      exact ⟨rfl, [], next :: rest, fields, rfl, .stay, found, unlisted, suggested⟩
    | ok field =>
      simp only [looked] at fails
      split at fails
      next => cases fails
      next goes =>
        obtain ⟨same, front, back, fields, divided, leads, further⟩ := ih fails
        exact ⟨same, segment :: front, back, fields, congrArg (segment :: ·) divided,
          .go (fieldAt_eq_ok_iff_field?.mp looked) goes leads, further⟩

/-- A path for which a field is suggested leads to its type, and the next of its segments names
none. -/
theorem resolve_eq_suggests {root path missing other reported name : String}
    {suggest : Text.Suggester}
    (fails : navigation.resolve root path suggest =
      .error (.unknownField missing other reported (some name))) :
    reported = path ∧ ∃ front back fields, Text.segments path = front ++ missing :: back ∧
      navigation.Leads root front other ∧ navigation.registry.lookup other = some fields ∧
        fields.find? missing = none ∧ suggest fields.names missing = some name := by
  obtain ⟨segment, rest, divided⟩ := List.exists_cons_of_ne_nil (Text.segments_ne_nil path)
  rw [resolve, divided] at fails
  rw [divided]
  exact follow_eq_suggests fails

/-- A path that is put together from segments before a field, the name of the field and segments
behind it ends at the field, fails if there are segments behind a scalar, or is followed from the
type of the field on. -/
theorem resolve_joined {root type name : String} {front back : List String} {field : Field}
    (suggest : Text.Suggester) (leads : navigation.Leads root front type)
    (looked : navigation.registry.field? type name = some field)
    (undotted : ∀ text ∈ front ++ name :: back, Text.pathSeparator ∉ text.toList) :
    let path := Text.joined "." (front ++ name :: back)
    navigation.resolve root path suggest =
      if back = [] then .ok field
      else if navigation.classifier.kindOf field.relatedType = .scalar then
        .error (.notNavigable name type path)
      else (navigation.resolve field.relatedType (Text.joined "." back) suggest).mapError
        (.inPath path) := by
  intro path
  have nonempty : front ++ name :: back ≠ [] :=
    List.append_ne_nil_of_right_ne_nil _ (List.cons_ne_nil _ _)
  have divided : Text.segments path = front ++ name :: back :=
    Text.segments_joined nonempty undotted
  obtain ⟨segment, rest, begins⟩ := List.exists_cons_of_ne_nil nonempty
  have followed : navigation.resolve root path suggest =
      navigation.follow path type name back suggest := by
    rw [resolve, divided, begins]
    exact leads.follow path begins
  rw [followed]
  cases back with
  | nil => exact fieldAt_eq_ok_iff_field?.mpr looked
  | cons next rest =>
    have behind : Text.segments (Text.joined "." (next :: rest)) = next :: rest :=
      Text.segments_joined (List.cons_ne_nil _ _) fun text listed =>
        undotted text (List.mem_append_right _ (List.mem_cons_of_mem _ listed))
    have further : (navigation.resolve field.relatedType (Text.joined "." (next :: rest))
        suggest).mapError (.inPath path) =
          navigation.follow path field.relatedType next rest suggest := by
      rw [resolve, behind]
      exact (follow_inPath path _ _ _ _ _).symm
    rw [follow_cons, fieldAt_eq_ok_iff_field?.mpr looked, if_neg (List.cons_ne_nil _ _), further]

/-- A suggestion repairs the failing segment. However names are scored, by the running scores or by
any function of two texts in their place, a path that fails for the want of a field while another
one is suggested fails at a segment behind others that lead to the type in question, and that type
has no field of the segment. The suggested name is that of a field of the type, and the last of
those with the highest score for the segment. With this name in place of the segment the path is
divided as it was put together, and comes to the field if nothing is behind it; it cannot be
followed behind the field if that is a scalar, and otherwise comes to what the segments behind it
come to from the type of the field, with faults told of the repaired path. -/
theorem resolve_repaired {navigation : Navigation} (undotted : navigation.registry.UndottedFields) :
    (∀ root path, navigation.resolve root path (Text.suggestionBy Text.scoreAfter) =
      navigation.resolve root path) ∧
    ∀ (score : Text.Scorer) (root path segment type reported name : String),
      navigation.resolve root path (Text.suggestionBy score) =
        .error (.unknownField segment type reported (some name)) →
      ∃ front back fields field best,
        (reported = path ∧ Text.segments path = front ++ segment :: back ∧
          path = Text.joined "." (front ++ segment :: back) ∧
          navigation.Leads root front type) ∧
        (navigation.registry.lookup type = some fields ∧ fields.find? segment = none ∧
          fields.find? name = some field ∧
          Text.IsLastBest (Text.scores score segment [] fields.names) (name, best)) ∧
        let repaired := Text.joined "." (front ++ name :: back)
        Text.segments repaired = front ++ name :: back ∧
          navigation.resolve root repaired (Text.suggestionBy score) =
            if back = [] then .ok field
            else if navigation.classifier.kindOf field.relatedType = .scalar then
              .error (.notNavigable name type repaired)
            else (navigation.resolve field.relatedType (Text.joined "." back)
              (Text.suggestionBy score)).mapError (.inPath repaired) := by
  refine ⟨fun root path => by rw [← funext₂ Text.suggestion?_eq], ?_⟩
  intro score root path segment type reported name fails
  obtain ⟨same, front, back, fields, divided, leads, found, unlisted, suggested⟩ :=
    resolve_eq_suggests fails
  obtain ⟨best, isBest⟩ := Text.exists_isLastBest_of_suggestionBy suggested
  have listed : name ∈ fields.names := Text.mem_of_mem_scores isBest.mem
  obtain ⟨field, looked⟩ := Option.isSome_iff_exists.mp (Table.isSome_find?_iff.mpr listed)
  have registered : navigation.registry.field? type name = some field :=
    Option.bind_eq_some_iff.mpr ⟨fields, found, looked⟩
  have plain : ∀ text ∈ front ++ name :: back, Text.pathSeparator ∉ text.toList := by
    have before : ∀ text ∈ front ++ segment :: back, Text.pathSeparator ∉ text.toList :=
      fun text held => Text.undotted_of_mem_segments (divided ▸ held)
    rw [List.forall_mem_append, List.forall_mem_cons] at before ⊢
    exact ⟨before.1, undotted.of_lookup found listed, before.2.2⟩
  exact ⟨front, back, fields, field, best, ⟨same, divided, by rw [← divided, Text.joined_segments],
    leads⟩, ⟨found, unlisted, looked, isBest⟩,
    Text.segments_joined (List.append_ne_nil_of_right_ne_nil _ (List.cons_ne_nil _ _)) plain,
    resolve_joined _ leads registered plain⟩

/-- Orders with a number and a customer, who has a name. -/
def namedCustomers : Navigation where
  classifier := CompilerSettings.standard.classifier customerOrders
  registry := (Registry.empty.add .entity "Order"
      ⟨[("number", .single (.named "Long")), ("customer", .single (.named "Customer"))],
        by decide⟩).add .entity "Customer" ⟨[("name", .single (.named "String"))], by decide⟩
  suggests := true

/-- A customer is suggested where a letter of it is missing, and with it the path leads on to the
name. -/
theorem namedCustomers_repaired :
    namedCustomers.registry.UndottedFields ∧
      namedCustomers.resolve "Order" "custmer.name" =
        .error (.unknownField "custmer" "Order" "custmer.name" (some "customer")) ∧
      namedCustomers.resolve "Order" "customer.name" = .ok (.single (.named "String")) := by
  have undotted : namedCustomers.registry.UndottedFields := by
    unfold Registry.UndottedFields
    decide
  have fails : namedCustomers.resolve "Order" "custmer.name" =
      .error (.unknownField "custmer" "Order" "custmer.name" (some "customer")) := by
    decide +kernel
  obtain ⟨running, repairs⟩ := resolve_repaired undotted
  have divided : Text.segments "custmer.name" = ["custmer", "name"] := by decide
  have customer : namedCustomers.registry.field? "Order" "customer" =
      some (.single (.named "Customer")) := by decide
  obtain ⟨front, back, fields, field, -, ⟨-, parts, -⟩, ⟨found, -, looked, -⟩, -, repaired⟩ :=
    repairs _ _ _ _ _ _ _ ((running _ _).trans fails)
  obtain ⟨rfl, rfl⟩ : front = [] ∧ back = ["name"] := by
    rw [divided] at parts
    cases front with
    | nil => exact ⟨rfl, (List.cons.inj parts).2.symm⟩
    | cons first rest =>
      have later := (List.cons.inj parts).2
      cases rest <;> simp at later
  obtain rfl : field = .single (.named "Customer") := by
    rw [Registry.field?, found, Option.bind_some, looked] at customer
    exact Option.some.inj customer
  have joined : Text.joined "." ([] ++ "customer" :: ["name"]) = "customer.name" := by decide
  have goes : namedCustomers.classifier.kindOf "Customer" ≠ .scalar := by decide
  have name : namedCustomers.resolve "Customer" (Text.joined "." ["name"]) =
      .ok (.single (.named "String")) := by decide
  refine ⟨undotted, fails, ?_⟩
  rw [joined, running, if_neg (List.cons_ne_nil _ _)] at repaired
  exact repaired.trans ((if_neg goes).trans (congrArg (Except.mapError _) name))

end Navigation

end SchemaProjection
