import SchemaProjection.Command.Run
import SchemaProjection.Proofs.Findings
import SchemaProjection.Proofs.Pieces

/-!
# Paths in a discovered schema

A path that goes on behind another one leads first where that one leads. In a discovered schema
whatever a path from a root comes to is registered if it is a schema type (`Closed`), so a path
that fails for the want of a type has come to a name about which nothing is known, or its root is
no schema type. Nor does it matter what else was discovered: the schema of the root alone and the
schema of a whole compilation let a path lead to the same.
-/
namespace SchemaProjection

/-- Nothing is known about a name that is neither a scalar nor a schema type. -/
theorem Classifier.kindOf_eq_unknown_iff {classifier : Classifier} {name : String}
    (scalar : classifier.kindOf name ≠ .scalar) :
    classifier.kindOf name = .unknown ↔ ¬classifier.IsSchemaType name := by
  rw [IsSchemaType]
  cases same : classifier.kindOf name <;> simp_all

namespace Navigation

variable {navigation : Navigation}

/-- A segment leads to a field exactly when its type has a field of its name. -/
theorem fieldAt_eq_ok_iff_field? {path type segment : String} {suggest : Text.Suggester}
    {field : Field} :
    navigation.fieldAt path type segment suggest = .ok field ↔
      navigation.registry.field? type segment = some field := by
  rw [fieldAt_eq_ok_iff, Registry.field?, Option.bind_eq_some_iff]
  simp only [Table.find?_eq_some_iff]

/-- A segment fails for the want of a type exactly when its own type has no fields. -/
theorem fieldAt_eq_unresolved_iff {path type segment reported missing : String} :
    navigation.fieldAt path type segment = .error (.unresolvedType reported missing) ↔
      navigation.registry.lookup type = none ∧ reported = path ∧ missing = type := by
  rw [fieldAt]
  cases navigation.registry.lookup type with
  | none => simp [@eq_comm _ path, @eq_comm _ type]
  | some fields => cases found : fields.find? segment <;> simp [found]

/-- Segments lead on behind a field unless it is a scalar. -/
theorem follow_cons_eq_ok_iff {path type segment next : String} {rest : List String}
    {field : Field} :
    navigation.follow path type segment (next :: rest) = .ok field ↔
      ∃ behind, navigation.registry.field? type segment = some behind ∧
        navigation.classifier.kindOf behind.relatedType ≠ .scalar ∧
          navigation.follow path behind.relatedType next rest = .ok field := by
  rw [follow_cons]
  have looked : ∀ behind, navigation.registry.field? type segment = some behind ↔
      navigation.fieldAt path type segment = .ok behind := fun _ => fieldAt_eq_ok_iff_field?.symm
  simp only [looked]
  cases navigation.fieldAt path type segment with
  | error fault => simp
  | ok behind =>
    by_cases scalar : navigation.classifier.kindOf behind.relatedType = .scalar <;> simp [scalar]

/-- What segments lead to does not depend on the path that they are told to be of. -/
theorem follow_eq_ok_congr (path other : String) {type segment : String} {rest : List String}
    {field : Field} :
    navigation.follow path type segment rest = .ok field ↔
      navigation.follow other type segment rest = .ok field := by
  induction rest generalizing type segment with
  | nil => rw [follow, follow, fieldAt_eq_ok_iff_field?, fieldAt_eq_ok_iff_field?]
  | cons next rest ih => simp only [follow_cons_eq_ok_iff, ih]

/-- Some beginning of the segments, but not all of them, leads to a field of a type. -/
def ComesTo (navigation : Navigation) (path type segment : String) (rest : List String)
    (other : String) : Prop :=
  ∃ front next back field, rest = front ++ next :: back ∧
    navigation.follow path type segment front = .ok field ∧ field.relatedType = other

/-- One segment is all there is. -/
theorem not_comesTo_nil {path type segment other : String} :
    ¬navigation.ComesTo path type segment [] other := by
  rintro ⟨front, next, back, -, divided, -⟩
  exact List.append_ne_nil_of_right_ne_nil front (List.cons_ne_nil next back) divided.symm

/-- Of several segments the first leads to a field of the type, or it leads on to a type from
which the others come to it. -/
theorem comesTo_cons_iff {path type segment next other : String} {rest : List String} :
    navigation.ComesTo path type segment (next :: rest) other ↔
      ∃ field, navigation.registry.field? type segment = some field ∧
        (field.relatedType = other ∨
          navigation.classifier.kindOf field.relatedType ≠ .scalar ∧
            navigation.ComesTo path field.relatedType next rest other) := by
  constructor
  · rintro ⟨front, following, back, field, divided, leads, related⟩
    cases front with
    | nil => exact ⟨field, fieldAt_eq_ok_iff_field?.mp leads, .inl related⟩
    | cons first front =>
      obtain ⟨rfl, later⟩ := List.cons.inj divided
      obtain ⟨behind, looked, goes, further⟩ := follow_cons_eq_ok_iff.mp leads
      exact ⟨behind, looked, .inr ⟨goes, front, following, back, field, later, further, related⟩⟩
  · rintro ⟨field, looked, related | ⟨goes, front, following, back, last, rfl, leads, related⟩⟩
    · exact ⟨[], next, rest, field, rfl, fieldAt_eq_ok_iff_field?.mpr looked, related⟩
    · exact ⟨next :: front, following, back, last, rfl,
        follow_cons_eq_ok_iff.mpr ⟨field, looked, goes, leads⟩, related⟩

/-- A path comes to a type exactly when it goes on behind a path that leads to a field of the
type. -/
theorem comesTo_iff_of_segments {path root segment other : String} {rest : List String}
    (divided : Text.segments path = segment :: rest) :
    navigation.ComesTo path root segment rest other ↔
      ∃ front back field, path = front ++ "." ++ back ∧
        navigation.resolve root front = .ok field ∧ field.relatedType = other := by
  constructor
  · rintro ⟨before, next, behind, field, rfl, leads, related⟩
    have divided : Text.segments path = (segment :: before) ++ (next :: behind) := divided
    obtain ⟨front, back, joined, begins, -⟩ :=
      Text.exists_of_segments_eq_append divided (List.cons_ne_nil _ _) (List.cons_ne_nil _ _)
    refine ⟨front, back, field, joined, ?_, related⟩
    rw [resolve, begins]
    exact (follow_eq_ok_congr path front).mp leads
  · rintro ⟨front, back, field, rfl, leads, related⟩
    rw [Text.segments_append] at divided
    rw [resolve] at leads
    obtain ⟨first, before, begins⟩ := List.exists_cons_of_ne_nil (Text.segments_ne_nil front)
    obtain ⟨next, behind, ends⟩ := List.exists_cons_of_ne_nil (Text.segments_ne_nil back)
    rw [begins] at leads
    rw [begins, ends] at divided
    obtain ⟨rfl, rfl⟩ := List.cons.inj divided
    exact ⟨before, next, behind, field, rfl, (follow_eq_ok_congr _ _).mp leads, related⟩

/-- The known type names lead only to known names, and those among them that are schema types are
just the registered ones. -/
structure Closed (navigation : Navigation) (known : String → Prop) : Prop where
  /-- What is not registered is no schema type. -/
  missing : ∀ type, known type →
    (navigation.registry.lookup type = none ↔ ¬navigation.classifier.IsSchemaType type)
  /-- The fields of known names lead to known names. -/
  stays : ∀ type segment field, known type →
    navigation.registry.field? type segment = some field → known field.relatedType

variable {known : String → Prop}

/-- Where nothing is missing, only schema types have fields. -/
theorem Closed.isSchemaType_of_field? (closed : navigation.Closed known)
    {type segment : String} {field : Field} (start : known type)
    (found : navigation.registry.field? type segment = some field) :
    navigation.classifier.IsSchemaType type := by
  by_contra other
  rw [Registry.field?, (closed.missing type start).mpr other] at found
  cases found

/-- Where nothing is missing, segments fail for the want of a type exactly when the first type is
no schema type or when they come to one about which nothing is known. -/
theorem Closed.follow_eq_unresolved_iff (closed : navigation.Closed known)
    {path type segment reported missing : String} {rest : List String} (start : known type) :
    navigation.follow path type segment rest = .error (.unresolvedType reported missing) ↔
      reported = path ∧
        (missing = type ∧ ¬navigation.classifier.IsSchemaType type ∨
          navigation.classifier.kindOf missing = .unknown ∧
            navigation.ComesTo path type segment rest missing) := by
  -- The type stays a known one from segment to segment, so that it is looked up in vain exactly
  -- when it is no schema type.
  induction rest generalizing type segment with
  | nil =>
    rw [follow, fieldAt_eq_unresolved_iff, closed.missing type start]
    simp only [not_comesTo_nil, and_false, or_false]
    tauto
  | cons next rest ih =>
    rw [follow_cons, comesTo_cons_iff]
    cases looked : navigation.fieldAt path type segment with
    | error fault =>
      have unnamed : ∀ field, navigation.registry.field? type segment ≠ some field := by
        intro field found
        rw [fieldAt_eq_ok_iff_field?.mpr found] at looked
        cases looked
      simp only [← looked, fieldAt_eq_unresolved_iff, closed.missing type start, unnamed, false_and,
        exists_false, and_false, or_false]
      tauto
    | ok field =>
      have found := fieldAt_eq_ok_iff_field?.mp looked
      simp only [found, Option.some.injEq, exists_eq_left',
        closed.isSchemaType_of_field? start found, not_true_eq_false, and_false, false_or]
      by_cases scalar : navigation.classifier.kindOf field.relatedType = .scalar
      · simp only [scalar, if_pos, ne_eq, not_true_eq_false, false_and, or_false]
        constructor
        · intro failed
          cases failed
        · rintro ⟨-, unknown, rfl⟩
          simp [scalar] at unknown
      · have unknown : missing = field.relatedType ∧
              ¬navigation.classifier.IsSchemaType field.relatedType ↔
            navigation.classifier.kindOf missing = .unknown ∧ field.relatedType = missing := by
          rw [← Classifier.kindOf_eq_unknown_iff scalar]
          constructor
          · rintro ⟨rfl, unknown⟩
            exact ⟨unknown, rfl⟩
          · rintro ⟨unknown, rfl⟩
            exact ⟨rfl, unknown⟩
        rw [if_neg scalar, ih (closed.stays type segment field start found), unknown,
          ← and_or_left]
        simp only [ne_eq, scalar, not_false_eq_true, true_and]

/-- Where nothing is missing, a path fails for the want of a type exactly when its root is no
schema type or when it goes on behind a path to a field of a type about which nothing is known. -/
theorem Closed.resolve_eq_unresolved_iff (closed : navigation.Closed known)
    {root path reported missing : String} (start : known root) :
    navigation.resolve root path = .error (.unresolvedType reported missing) ↔
      reported = path ∧
        (missing = root ∧ ¬navigation.classifier.IsSchemaType root ∨
          navigation.classifier.kindOf missing = .unknown ∧
            ∃ front back field, path = front ++ "." ++ back ∧
              navigation.resolve root front = .ok field ∧ field.relatedType = missing) := by
  obtain ⟨segment, rest, divided⟩ := List.exists_cons_of_ne_nil (Text.segments_ne_nil path)
  rw [← comesTo_iff_of_segments divided, resolve, divided]
  exact closed.follow_eq_unresolved_iff start

end Navigation

/-- In a discovered schema nothing is missing of what a root leads to. -/
theorem discoverSchema_closed (settings : CompilerSettings) (model : Model) (suggests : Bool)
    {roots : List String} {root : String} (listed : root ∈ roots) :
    Navigation.Closed
      ⟨settings.classifier model, (discoverSchema settings model roots).1, suggests⟩
      ((settings.classifier model).WithinReach root) where
  missing type within := by
    change (discoverSchema settings model roots).1.lookup type = none ↔ _
    rw [Option.eq_none_iff_forall_ne_some]
    simp only [ne_eq, discoverSchema_lookup_eq_some_iff, not_and]
    constructor
    · intro unregistered schemaType
      exact unregistered _ ((within schemaType).mono (by simpa using listed)) rfl
    · intro other fields reachable
      exact absurd reachable.isSchemaType other
  stays type segment field within found := by
    obtain ⟨fields, lookup, entry⟩ := Option.bind_eq_some_iff.mp found
    exact (discoverSchema_agreesOn settings model suggests listed listed).stays type fields
      segment field within lookup (Table.find?_eq_some_iff.mp entry)

/-- The kind of a type about which nothing is known is no kind of schema types. -/
theorem Classifier.not_isSchemaType_of_unknown {classifier : Classifier} {name : String}
    (unknown : classifier.kindOf name = .unknown) : ¬classifier.IsSchemaType name := by
  simp [IsSchemaType, unknown]

/-- No schema type is missing from a discovered schema. A path from one of its roots fails for the
want of a type exactly when the root is no schema type or when some beginning of the path leads to
a field of that type and nothing is known about it; schema types are never wanted. -/
theorem discoverSchema_unresolved_iff (settings : CompilerSettings) (model : Model)
    (suggests : Bool) {roots : List String} {root : String} (listed : root ∈ roots)
    (path : String) :
    let navigation : Navigation :=
      ⟨settings.classifier model, (discoverSchema settings model roots).1, suggests⟩
    ∀ reported missing,
      (navigation.resolve root path = .error (.unresolvedType reported missing) ↔
        reported = path ∧
          (missing = root ∧ ¬navigation.classifier.IsSchemaType root ∨
            navigation.classifier.kindOf missing = .unknown ∧
              ∃ front back field, path = front ++ "." ++ back ∧
                navigation.resolve root front = .ok field ∧ field.relatedType = missing)) ∧
      (navigation.resolve root path = .error (.unresolvedType reported missing) →
        ¬navigation.classifier.IsSchemaType missing) := by
  intro navigation reported missing
  have closed := discoverSchema_closed settings model suggests listed
  have start : (settings.classifier model).WithinReach root root :=
    Classifier.reachable_root List.mem_cons_self
  refine ⟨closed.resolve_eq_unresolved_iff start, fun failed => ?_⟩
  obtain ⟨-, ⟨rfl, other⟩ | ⟨unknown, -⟩⟩ := (closed.resolve_eq_unresolved_iff start).mp failed
  · exact other
  · exact Classifier.not_isSchemaType_of_unknown unknown

/-- The lines of an order are of a type that is not declared, so no path goes on behind them. -/
theorem orders_lines_unresolved :
    "Order" ∈ ["Order"] ∧
      let navigation : Navigation :=
        ⟨CompilerSettings.standard.classifier Compilation.orders,
          (discoverSchema .standard Compilation.orders ["Order"]).1, true⟩
      navigation.resolve "Order" "lines.count" =
        .error (.unresolvedType "lines.count" "Line") := by
  have listed : "Order" ∈ ["Order"] := by decide
  have ancestry : Compilation.orders.ancestry "Order" = [Compilation.order] :=
    Model.ancestry_of_parentless rfl rfl
  have lines : Compilation.plainField "lines" (.generic "List" [.named "Line"]) ∈
      Compilation.orders.persistentFields "Order" := by
    rw [Model.persistentFields, Model.mem_effectiveFields_iff, Model.IsClosest, ancestry]
    decide
  have registered : (discoverSchema .standard Compilation.orders ["Order"]).1.lookup "Order" =
      some ((CompilerSettings.standard.classifier Compilation.orders).fieldsOf "Order") := by
    rw [discoverSchema_lookup_eq_some_iff]
    exact ⟨Classifier.reachable_root listed (.inl (by decide)), rfl⟩
  refine ⟨listed, ((discoverSchema_unresolved_iff .standard Compilation.orders true listed
    "lines.count" "lines.count" "Line").1).mpr ⟨rfl, .inr ⟨by decide, "lines", "count", _, rfl,
      Navigation.fieldAt_eq_ok_iff.mpr ⟨_, registered, List.mem_map_of_mem lines⟩, ?_⟩⟩⟩
  decide

/-- Paths depend on no more than what their root leads to. In the schemas discovered from any two
lists of roots in which it stands, the same paths lead to the same fields and fail with the same
faults; so a path that is resolved on its own has the result that it has in a compilation whose
views project its root. -/
theorem discoverSchema_resolve_eq_of_shared_root (settings : CompilerSettings) (model : Model)
    {left right : List String} {root : String} (inLeft : root ∈ left) (inRight : root ∈ right) :
    (∀ suggests path,
        Navigation.resolve
            ⟨settings.classifier model, (discoverSchema settings model left).1, suggests⟩ root
            path =
          Navigation.resolve
            ⟨settings.classifier model, (discoverSchema settings model right).1, suggests⟩ root
            path) ∧
      ∀ decl ∈ model.types, ∀ projection, decl.projection = some projection → ∀ path,
        Command.resolve settings model projection.source path =
          Command.resolution projection.source path
            ((settings.viewCompiler model (Compilation.run settings model).schema).resolve
              projection.source path) := by
  refine ⟨fun suggests path =>
    discoverSchema_resolve_congr settings model suggests inLeft inRight path, ?_⟩
  intro decl declared projection projects path
  have source := Compilation.source_mem_sources declared projects
  exact congrArg (Command.resolution projection.source path)
    (discoverSchema_resolve_congr settings model _ List.mem_cons_self source path)

/-- Whether orders or customers come first, the same paths go on from an order; and the paths that
the summary of an order copies can be resolved on their own. -/
theorem orders_resolve_eq :
    ("Order" ∈ ["Order"] ∧ "Order" ∈ ["Customer", "Order"]) ∧
      (∀ path,
        Navigation.resolve
            ⟨CompilerSettings.standard.classifier customerOrders,
              (discoverSchema .standard customerOrders ["Order"]).1, true⟩ "Order" path =
          Navigation.resolve
            ⟨CompilerSettings.standard.classifier customerOrders,
              (discoverSchema .standard customerOrders ["Customer", "Order"]).1, true⟩
            "Order" path) ∧
      Compilation.orderSummary ∈ Compilation.orders.types ∧
      ∀ path,
        Command.resolve .standard Compilation.orders "Order" path =
          Command.resolution "Order" path
            ((CompilerSettings.standard.viewCompiler Compilation.orders
              (Compilation.run .standard Compilation.orders).schema).resolve "Order" path) := by
  have inLeft : "Order" ∈ ["Order"] := by decide
  have inRight : "Order" ∈ ["Customer", "Order"] := by decide
  have declared : Compilation.orderSummary ∈ Compilation.orders.types := by decide
  have same := (discoverSchema_resolve_eq_of_shared_root .standard customerOrders inLeft inRight).1
  have alone :=
    (discoverSchema_resolve_eq_of_shared_root .standard Compilation.orders inLeft inLeft).2
  exact ⟨⟨inLeft, inRight⟩, same true, declared, alone _ declared _ rfl⟩

end SchemaProjection
