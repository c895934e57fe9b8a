import SchemaProjection.Proofs.Reachability

/-!
# Where paths can lead

A path is followed over types that its root leads to, so it cannot tell apart two registries
that agree on those types. `Navigation.AgreesOn` states what two navigations have to share on a
set of type names that paths do not leave; paths that begin in the set then lead to the same
field or fail with the same fault. A schema discovered from several roots agrees in this way
with the schema discovered from one of them alone: what that root does not reach is never
looked up, except for names that are no schema types, and these are registered nowhere.
-/
namespace SchemaProjection.Navigation

/-- Following one more segment: the segment is looked up, and its field must not be a scalar. -/
theorem follow_cons (navigation : Navigation) (path type segment next : String)
    (rest : List String) (suggest : Text.Suggester) :
    navigation.follow path type segment (next :: rest) suggest =
      match navigation.fieldAt path type segment suggest with
      | .error fault => .error fault
      | .ok field =>
        if navigation.classifier.kindOf field.relatedType = .scalar then
          .error (.notNavigable segment type path)
        else navigation.follow path field.relatedType next rest suggest := by
  rw [follow]
  cases navigation.fieldAt path type segment suggest <;> rfl

/-- A segment leads to a field exactly when its type has fields and one of them has its name. -/
theorem fieldAt_eq_ok_iff {navigation : Navigation} {path type segment : String}
    {suggest : Text.Suggester} {field : Field} :
    navigation.fieldAt path type segment suggest = .ok field ↔
      ∃ fields, navigation.registry.lookup type = some fields ∧
        (segment, field) ∈ fields.entries := by
  rw [fieldAt]
  cases navigation.registry.lookup type with
  | none => simp
  | some fields =>
    simp only [Option.some.injEq, exists_eq_left']
    rw [← Table.find?_eq_some_iff]
    cases fields.find? segment <;> simp

/-- Two navigations cannot be told apart on the known type names: they look them up alike, and the
fields found there lead to known names again. -/
structure AgreesOn (left right : Navigation) (known : String → Prop) : Prop where
  /-- Names are of the same kinds. -/
  kinds : ∀ name, left.classifier.kindOf name = right.classifier.kindOf name
  /-- Both suggest fields, or none does. -/
  suggests : left.suggests = right.suggests
  /-- Known names have the same fields. -/
  lookups : ∀ type, known type → left.registry.lookup type = right.registry.lookup type
  /-- The fields of known names lead to known names. -/
  stays : ∀ type fields segment field, known type → left.registry.lookup type = some fields →
    (segment, field) ∈ fields.entries → known field.relatedType

variable {left right : Navigation} {known : String → Prop}

/-- Navigations that agree on the known names look up a segment of a known type alike. -/
theorem AgreesOn.fieldAt (agrees : left.AgreesOn right known) {type : String}
    (start : known type) (path segment : String) :
    left.fieldAt path type segment = right.fieldAt path type segment := by
  rw [Navigation.fieldAt, Navigation.fieldAt, agrees.lookups type start, agrees.suggests]

/-- Navigations that agree on the known names follow segments from a known type alike. -/
theorem AgreesOn.follow (agrees : left.AgreesOn right known) {type : String}
    (start : known type) (path segment : String) (rest : List String) :
    left.follow path type segment rest = right.follow path type segment rest := by
  induction rest generalizing type segment with
  | nil => exact agrees.fieldAt start path segment
  | cons next rest ih =>
    rw [follow_cons, follow_cons, ← agrees.fieldAt start path segment]
    cases looked : left.fieldAt path type segment with
    | error fault => rfl
    | ok field =>
      obtain ⟨fields, found, listed⟩ := fieldAt_eq_ok_iff.mp looked
      have stays := agrees.stays type fields segment field start found listed
      simp only [agrees.kinds, ih stays]

/-- Paths from a known type lead to the same field or fail with the same fault. -/
theorem AgreesOn.resolve (agrees : left.AgreesOn right known) {root : String}
    (start : known root) (path : String) : left.resolve root path = right.resolve root path := by
  rw [Navigation.resolve, Navigation.resolve]
  cases Text.segments path with
  | nil => rfl
  | cons segment rest => exact agrees.follow start path segment rest

end Navigation

namespace Classifier

/-- A field of a type leads to a schema type or to no schema type at all. -/
theorem leadsTo_of_mem_fieldsOf {classifier : Classifier} {name segment : String} {field : Field}
    (listed : (segment, field) ∈ (classifier.fieldsOf name).entries)
    (schemaType : classifier.IsSchemaType field.relatedType) :
    classifier.LeadsTo name field.relatedType := by
  obtain ⟨decl, declared, same⟩ := List.mem_map.mp listed
  exact ⟨schemaType, decl, declared, congrArg (·.2.relatedType) same⟩

/-- A name that one root reaches, or that is no schema type: what paths from the root can come
to. -/
def WithinReach (classifier : Classifier) (root name : String) : Prop :=
  classifier.IsSchemaType name → classifier.Reachable [root] name

end Classifier

/-- The schemas discovered from two lists of roots agree on what a root in both can reach. -/
theorem discoverSchema_agreesOn (settings : CompilerSettings) (model : Model) (suggests : Bool)
    {left right : List String} {root : String} (inLeft : root ∈ left) (inRight : root ∈ right) :
    Navigation.AgreesOn
      ⟨settings.classifier model, (discoverSchema settings model left).1, suggests⟩
      ⟨settings.classifier model, (discoverSchema settings model right).1, suggests⟩
      ((settings.classifier model).WithinReach root) where
  kinds _ := rfl
  suggests := rfl
  lookups type within := by
    apply Option.ext
    intro fields
    change (discoverSchema settings model left).1.lookup type = some fields ↔
      (discoverSchema settings model right).1.lookup type = some fields
    rw [discoverSchema_lookup_eq_some_iff, discoverSchema_lookup_eq_some_iff]
    constructor
    · rintro ⟨reachable, same⟩
      exact ⟨(within reachable.isSchemaType).mono (by simpa using inRight), same⟩
    · rintro ⟨reachable, same⟩
      exact ⟨(within reachable.isSchemaType).mono (by simpa using inLeft), same⟩
  stays type fields segment field within found listed := by
    intro schemaType
    obtain ⟨reachable, rfl⟩ := (discoverSchema_lookup_eq_some_iff ..).mp found
    exact (within reachable.isSchemaType).step
      (Classifier.leadsTo_of_mem_fieldsOf listed schemaType)

/-- A path from a root is followed alike in the schemas discovered from any roots among which
that root is. -/
theorem discoverSchema_resolve_congr (settings : CompilerSettings) (model : Model)
    (suggests : Bool) {left right : List String} {root : String} (inLeft : root ∈ left)
    (inRight : root ∈ right) (path : String) :
    Navigation.resolve
        ⟨settings.classifier model, (discoverSchema settings model left).1, suggests⟩ root path =
      Navigation.resolve
        ⟨settings.classifier model, (discoverSchema settings model right).1, suggests⟩ root path :=
  (discoverSchema_agreesOn settings model suggests inLeft inRight).resolve
    (Classifier.reachable_root List.mem_cons_self) path

/-- Whether a root is registered does not depend on the other roots. -/
theorem discoverSchema_contains_congr (settings : CompilerSettings) (model : Model)
    {left right : List String} {root : String} (inLeft : root ∈ left) (inRight : root ∈ right) :
    (discoverSchema settings model left).1.contains root =
      (discoverSchema settings model right).1.contains root := by
  have agrees := discoverSchema_agreesOn settings model false inLeft inRight
  exact congrArg Option.isSome (agrees.lookups root (Classifier.reachable_root List.mem_cons_self))

end SchemaProjection
