import SchemaProjection.Proofs.DiscoveryRuns
import SchemaProjection.Proofs.Findings
import SchemaProjection.Proofs.Walks

/-!
# Registries only grow

A registry is built in steps: what a root leads to is discovered, a name is seen without being
looked at, or fields are added by hand. `Discovery.Grows` says what no step takes back, and it is
proved for one step and carried over any number of them (`Discovery.Grows.build`). By hand a name
can be added without being seen, and a name can be seen whose fields are never added; but as long
as nothing is added by hand, what is registered has been seen and is as declared
(`Classifier.AsDeclared`).
-/
namespace SchemaProjection

/-- A step in the building of a registry. -/
inductive BuildStep where
  /-- Discover the schema types that a root leads to. -/
  | discover (root : String)
  /-- See a name. -/
  | see (name : String)
  /-- Add the fields of a type by hand. -/
  | add (role : Role) (name : String) (fields : Table Field)

/-- Nothing is added by hand. -/
def BuildStep.ByDeclaration : BuildStep → Prop
  | .discover _ | .see _ => True
  | .add _ _ _ => False

/-- From one discovery to another nothing is lost: the entries of each half stand in their places
before any others, and what has been seen is still seen. -/
structure Discovery.Grows (before after : Discovery) : Prop where
  /-- The entries of a half are the first ones of it afterwards. -/
  entries : ∀ role, (before.registry.half role).entries <+: (after.registry.half role).entries
  /-- What has been seen is still seen. -/
  seen : before.seen ⊆ after.seen

/-- The entries of a table stand before what is added. -/
theorem Table.entries_prefix_add {α : Type} (table : Table α) (name : String) (value : α) :
    table.entries <+: (table.add name value).entries := by
  by_cases held : name ∈ table.names
  · exact ⟨[], by rw [add_of_mem held, List.append_nil]⟩
  · rw [entries_add held]
    exact List.prefix_append _ _

/-- The fields of a type are added to one half. -/
theorem Registry.half_add (registry : Registry) (role other : Role) (name : String)
    (fields : Table Field) :
    (registry.add role name fields).half other =
      if other = role then (registry.half role).add name fields else registry.half other := by
  cases role <;> cases other <;> rfl

namespace Discovery.Grows

variable {before middle after : Discovery}

/-- Nothing is lost where nothing is done. -/
theorem refl (discovery : Discovery) : discovery.Grows discovery :=
  ⟨fun _ => List.prefix_rfl, List.Subset.refl _⟩

/-- Nothing is lost in two parts of the way if nothing is lost in either. -/
theorem trans (first : before.Grows middle) (second : middle.Grows after) : before.Grows after :=
  ⟨fun role => (first.entries role).trans (second.entries role),
    List.Subset.trans first.seen second.seen⟩

/-- Steps leave no fewer types than there were. -/
theorem size_le (grows : before.Grows after) : before.registry.size ≤ after.registry.size :=
  Nat.add_le_add (grows.entries .entity).length_le (grows.entries .embeddable).length_le

/-- Nothing is lost when a name is seen. -/
theorem see (discovery : Discovery) (name : String) : discovery.Grows (discovery.see name) :=
  ⟨fun _ => List.prefix_rfl, List.subset_cons_self name discovery.seen⟩

/-- Nothing is lost when fields are added. -/
theorem add (discovery : Discovery) (role : Role) (name : String) (fields : Table Field) :
    discovery.Grows (discovery.add role name fields) where
  entries other := by
    rw [Discovery.add, Registry.half_add]
    split
    next same =>
      subst same
      exact Table.entries_prefix_add _ _ _
    next => exact List.prefix_rfl
  seen := List.Subset.refl _

/-- Nothing is lost in a visit. -/
theorem visit (classifier : Classifier) (discovery : Discovery) (waiting : List String) :
    discovery.Grows (classifier.visit discovery waiting).1 :=
  Classifier.visit_preserves (fun later _ => discovery.Grows later)
    (fun _ _ _ _ grows => grows)
    (fun _ _ _ _ _ _ grows => (grows.trans (see _ _)).trans (add _ _ _ _)) (refl discovery)

end Discovery.Grows

namespace Classifier

/-- Take a step. -/
def takeStep (classifier : Classifier) (discovery : Discovery) : BuildStep → Discovery
  | .discover root => (classifier.discover discovery root).1
  | .see name => discovery.see name
  | .add role name fields => discovery.add role name fields

/-- Take steps in order. -/
def build (classifier : Classifier) (discovery : Discovery) (steps : List BuildStep) : Discovery :=
  steps.foldl classifier.takeStep discovery

/-- What is registered has been seen, and it stands with its own fields in the half of its kind. -/
def AsDeclared (classifier : Classifier) (discovery : Discovery) : Prop :=
  ∀ role name fields, (discovery.registry.half role).find? name = some fields →
    name ∈ discovery.seen ∧ (classifier.kindOf name).role? = some role ∧
      fields = classifier.fieldsOf name

variable {classifier : Classifier}

/-- Steps that come later are taken from where the others end. -/
theorem build_append (discovery : Discovery) (earlier later : List BuildStep) :
    classifier.build discovery (earlier ++ later) =
      classifier.build (classifier.build discovery earlier) later :=
  List.foldl_append

/-- Nothing is lost in a step. -/
theorem takeStep_grows (discovery : Discovery) (step : BuildStep) :
    discovery.Grows (classifier.takeStep discovery step) := by
  cases step with
  | discover root => exact .visit classifier discovery [root]
  | see name => exact .see discovery name
  | add role name fields => exact .add discovery role name fields

/-- Nothing is lost in any number of steps. -/
theorem build_grows (discovery : Discovery) (steps : List BuildStep) :
    discovery.Grows (classifier.build discovery steps) := by
  induction steps generalizing discovery with
  | nil => exact .refl discovery
  | cons step rest ih => exact (takeStep_grows discovery step).trans (ih _)

/-- Nothing is registered at the beginning. -/
theorem asDeclared_empty : classifier.AsDeclared .empty := by
  intro role name fields found
  cases role <;> cases found

/-- What is taken up is as declared. -/
theorem AsDeclared.run {discovery : Discovery} {waiting : List String} {turns : List Turn}
    {last : Stage} (declared : classifier.AsDeclared discovery)
    (run : classifier.Run ⟨discovery, waiting⟩ turns last) :
    classifier.AsDeclared last.discovery := by
  intro role name fields found
  rw [run.registers, Option.or_eq_some_iff] at found
  rw [run.seen_eq]
  rcases found with before | ⟨-, taken⟩
  · obtain ⟨seen, known, own⟩ := declared role name fields before
    exact ⟨List.mem_append_right _ seen, known, own⟩
  · obtain ⟨⟨held, known⟩, own⟩ := Option.ite_none_right_eq_some.mp taken
    exact ⟨List.mem_append_left _ (List.mem_reverse.mpr held), known, (Option.some.inj own).symm⟩

/-- A step that adds nothing by hand keeps what is registered as declared. -/
theorem AsDeclared.takeStep {discovery : Discovery} {step : BuildStep}
    (declared : classifier.AsDeclared discovery) (byDeclaration : step.ByDeclaration) :
    classifier.AsDeclared (classifier.takeStep discovery step) := by
  cases step with
  | discover root =>
    obtain ⟨turns, run⟩ := classifier.run_visit discovery [root]
    exact declared.run run
  | see name =>
    intro role other fields found
    obtain ⟨seen, known, own⟩ := declared role other fields found
    exact ⟨List.mem_cons_of_mem name seen, known, own⟩
  | add role name fields => exact byDeclaration.elim

/-- Steps that add nothing by hand keep what is registered as declared. -/
theorem AsDeclared.build {discovery : Discovery} {steps : List BuildStep}
    (declared : classifier.AsDeclared discovery)
    (byDeclaration : ∀ step ∈ steps, step.ByDeclaration) :
    classifier.AsDeclared (classifier.build discovery steps) := by
  induction steps generalizing discovery with
  | nil => exact declared
  | cons step rest ih =>
    rw [List.forall_mem_cons] at byDeclaration
    exact ih (declared.takeStep byDeclaration.1) byDeclaration.2

/-- What is as declared stands in one half only. -/
theorem AsDeclared.apart {discovery : Discovery} (declared : classifier.AsDeclared discovery) :
    discovery.registry.Apart :=
  .of_kinds
    (fun name fields found =>
      Kind.role?_eq_entity_iff.mp (declared .entity name fields found).2.1)
    fun name fields found =>
      Kind.role?_eq_embeddable_iff.mp (declared .embeddable name fields found).2.1

/-- A registry only grows, and nothing in it is written again. Whatever steps are taken from nothing
in whatever order, further steps leave the entries of each half in their places, with the same
fields, and put new ones behind them; what has been seen stays seen, and there are no fewer types.
If nothing is added by hand, every registered name has been seen, no name stands in both halves, and
every type has the fields that it is declared with. -/
theorem build_only_grows (classifier : Classifier) (earlier later : List BuildStep) :
    let before := classifier.build .empty earlier
    let after := classifier.build .empty (earlier ++ later)
    ((∀ role, (before.registry.half role).entries <+: (after.registry.half role).entries) ∧
        before.seen ⊆ after.seen ∧ before.registry.size ≤ after.registry.size) ∧
      ((∀ step ∈ earlier ++ later, step.ByDeclaration) →
        (∀ name, after.registry.contains name = true → name ∈ after.seen) ∧
          after.registry.Apart ∧
          ∀ role name fields, (after.registry.half role).find? name = some fields →
            fields = classifier.fieldsOf name) := by
  intro before after
  have grows : before.Grows after := by
    rw [show after = classifier.build before later from build_append .empty earlier later]
    exact build_grows before later
  refine ⟨⟨grows.entries, grows.seen, grows.size_le⟩, fun byDeclaration => ?_⟩
  have declared : classifier.AsDeclared after := asDeclared_empty.build byDeclaration
  refine ⟨fun name registered => ?_, declared.apart, fun role name fields found =>
    (declared role name fields found).2.2⟩
  obtain ⟨fields, found⟩ := Option.isSome_iff_exists.mp registered
  rcases Option.or_eq_some_iff.mp found with entity | ⟨-, embeddable⟩
  · exact (declared .entity name fields entity).1
  · exact (declared .embeddable name fields embeddable).1

/-- Customers are seen by hand before an order is discovered that leads to them: whatever is
registered then has been seen, in one half. -/
theorem build_customerOrders :
    let classifier := CompilerSettings.standard.classifier customerOrders
    let after := classifier.build .empty ([.see "Customer"] ++ [.discover "Order"])
    (∀ step ∈ [BuildStep.see "Customer"] ++ [.discover "Order"], step.ByDeclaration) ∧
      "Customer" ∈ after.seen ∧
      (∀ name, after.registry.contains name = true → name ∈ after.seen) ∧
      after.registry.Apart := by
  intro classifier after
  have byDeclaration : ∀ step ∈ [BuildStep.see "Customer"] ++ [.discover "Order"],
      step.ByDeclaration := by
    simp [BuildStep.ByDeclaration]
  obtain ⟨⟨-, kept, -⟩, declared⟩ :=
    classifier.build_only_grows [.see "Customer"] [.discover "Order"]
  obtain ⟨seen, apart, -⟩ := declared byDeclaration
  exact ⟨byDeclaration, kept List.mem_cons_self, seen, apart⟩

end Classifier

end SchemaProjection
