import Mathlib.Algebra.GroupWithZero.Nat
import SchemaProjection.Proofs.Reachability

/-!
# The work of a discovery

A discovery takes its turns one after the other: the name that waits first is passed over, or it is
taken up, its fields are collected, and the names that these lead to wait behind the others. `Step`
is one turn and `Run` a number of them, from whatever has been seen, is registered and waits. Steps
are the turns of the loop that runs (`exists_step_iff`), so they are determined, and every run is
the beginning of the one that ends where nothing waits, which is the visit (`run_visit`). A turn
leaves fewer declared types that have not been seen, or as many and fewer names that wait, so no
discovery goes on for ever (`step_wellFounded`). Since only fresh names are taken up and each gives
no more names to wait than it has fields, the number of turns is linear in what is discovered.
-/
namespace SchemaProjection

/-- The table of a half. -/
def Registry.half (registry : Registry) : Role → Table (Table Field)
  | .entity => registry.entities
  | .embeddable => registry.embeddables

/-- Fields that are added to one half are found there, unless the name was there before. -/
theorem Registry.find?_half_add (registry : Registry) (role other : Role) (name type : String)
    (fields : Table Field) :
    ((registry.add role name fields).half other).find? type =
      ((registry.half other).find? type).or
        (if other = role ∧ type = name then some fields else none) := by
  cases role <;> cases other <;> simp [add, half, Table.find?_add]

namespace Classifier

/-- What is done with the name that waits first. -/
inductive Turn where
  /-- The name is passed over. -/
  | passed (name : String)
  /-- The fields of the name are collected; it is seen and registered. -/
  | taken (name : String)

/-- The name that a turn takes up. -/
def Turn.taken? : Turn → Option String
  | .passed _ => none
  | .taken name => some name

/-- The names that are taken up, in order. -/
def takenIn (turns : List Turn) : List String := turns.filterMap Turn.taken?

/-- One turn of a discovery. -/
inductive Step (classifier : Classifier) : Stage → Turn → Stage → Prop
  /-- A name that has been seen or that is no schema type is passed over. -/
  | passes {discovery : Discovery} {name : String} {rest : List String}
      (passed : name ∈ discovery.seen ∨ ¬classifier.IsSchemaType name) :
      Step classifier ⟨discovery, name :: rest⟩ (.passed name) ⟨discovery, rest⟩
  /-- A schema type that has not been seen is taken up, and what it leads to waits behind the
  others. -/
  | takes {discovery : Discovery} {name : String} {rest : List String} {role : Role}
      (fresh : name ∉ discovery.seen) (taken : (classifier.kindOf name).role? = some role) :
      Step classifier ⟨discovery, name :: rest⟩ (.taken name)
        ⟨classifier.takeUp discovery role name, rest ++ classifier.newlyRelated discovery name⟩

/-- Turns of a discovery, one after the other. -/
inductive Run (classifier : Classifier) : Stage → List Turn → Stage → Prop
  /-- No turn. -/
  | done (stage : Stage) : Run classifier stage [] stage
  /-- A turn before others. -/
  | step {first middle last : Stage} {turn : Turn} {turns : List Turn}
      (next : classifier.Step first turn middle) (others : Run classifier middle turns last) :
      Run classifier first (turn :: turns) last

variable {classifier : Classifier}

/-- The stage behind a step is the one that a turn of the loop leaves. -/
theorem Step.eq_turn {discovery : Discovery} {name : String} {rest : List String} {turn : Turn}
    {last : Stage} (step : classifier.Step ⟨discovery, name :: rest⟩ turn last) :
    last = (classifier.turn discovery name rest).1 := by
  cases step with
  | passes passed => rw [turn_passed rest passed]
  | takes fresh taken => rw [turn_fresh rest fresh taken]

/-- What a step leads to is what a turn of the loop leaves. -/
theorem exists_step_iff {discovery : Discovery} {name : String} {rest : List String}
    {last : Stage} :
    (∃ turn, classifier.Step ⟨discovery, name :: rest⟩ turn last) ↔
      last = (classifier.turn discovery name rest).1 := by
  refine ⟨fun ⟨_, step⟩ => step.eq_turn, ?_⟩
  rintro rfl
  by_cases passed : name ∈ discovery.seen ∨ ¬classifier.IsSchemaType name
  · rw [turn_passed rest passed]
    exact ⟨_, .passes passed⟩
  · obtain ⟨fresh, schemaType⟩ := not_or.mp passed
    obtain ⟨role, taken⟩ := Option.ne_none_iff_exists'.mp (mt role?_eq_none_iff.mp schemaType)
    rw [turn_fresh rest fresh taken]
    exact ⟨_, .takes fresh taken⟩

/-- A stage has one step at most. -/
theorem Step.deterministic {first last other : Stage} {turn another : Turn}
    (step : classifier.Step first turn last) (same : classifier.Step first another other) :
    turn = another ∧ last = other := by
  have turns : turn = another := by
    cases step with
    | passes passed =>
      cases same with
      | passes => rfl
      | takes fresh taken => exact absurd (isSchemaType_of_role? taken) (passed.resolve_left fresh)
    | takes fresh taken =>
      cases same with
      | passes passed => exact absurd (isSchemaType_of_role? taken) (passed.resolve_left fresh)
      | takes => rfl
  obtain ⟨discovery, waiting⟩ := first
  cases waiting with
  | nil => cases step
  | cons name rest => exact ⟨turns, step.eq_turn.trans same.eq_turn.symm⟩

/-- Every run is the beginning of one from the same stage that ends where nothing waits. -/
theorem Run.prefix_of_ends {first last ended : Stage} {turns others : List Turn}
    (begun : classifier.Run first others last) (run : classifier.Run first turns ended)
    (nothing : ended.waiting = []) : others <+: turns := by
  induction begun generalizing turns with
  | done stage => exact List.nil_prefix
  | step next further ih =>
    cases run with
    | done stage => cases next <;> cases nothing
    | step same rest =>
      obtain ⟨rfl, rfl⟩ := next.deterministic same
      exact List.cons_prefix_cons.mpr ⟨rfl, ih rest⟩

/-- A step leaves fewer declared types that have not been seen, or as many and fewer names that
wait. -/
theorem Step.decreases {first last : Stage} {turn : Turn} (step : classifier.Step first turn last) :
    Prod.Lex (· < ·) (· < ·) (last.remaining classifier) (first.remaining classifier) := by
  obtain ⟨discovery, waiting⟩ := first
  cases waiting with
  | nil => cases step
  | cons name rest =>
    rw [step.eq_turn]
    exact classifier.turn_decreases discovery name rest

/-- No discovery takes turns for ever, whatever has been seen, is registered and waits. -/
theorem step_wellFounded (classifier : Classifier) :
    WellFounded fun later earlier : Stage => ∃ turn, classifier.Step earlier turn later :=
  Subrelation.wf (fun ⟨_, step⟩ => step.decreases)
    (InvImage.wf (fun stage : Stage => stage.remaining classifier)
      (Prod.lex Nat.lt_wfRel Nat.lt_wfRel).wf)

/-- A visit is a run that ends where nothing waits. -/
theorem run_visit (classifier : Classifier) (discovery : Discovery) (waiting : List String) :
    ∃ turns, classifier.Run ⟨discovery, waiting⟩ turns
      ⟨(classifier.visit discovery waiting).1, []⟩ := by
  induction discovery, waiting using visit_induction classifier with
  | done discovery =>
    rw [visit]
    exact ⟨[], .done _⟩
  | passes discovery name rest passed ih =>
    obtain ⟨turns, run⟩ := ih
    rw [visit_passed rest passed]
    exact ⟨_, .step (.passes passed) run⟩
  | takes discovery name rest role fresh taken ih =>
    obtain ⟨turns, run⟩ := ih
    rw [visit_fresh rest fresh taken]
    exact ⟨_, .step (.takes fresh taken) run⟩

/-- A name gives no more names to wait than it has fields. -/
theorem newlyRelated_length_le (classifier : Classifier) (discovery : Discovery) (name : String) :
    (classifier.newlyRelated discovery name).length ≤ (classifier.fieldsOf name).size :=
  calc (classifier.newlyRelated discovery name).length
    _ ≤ (classifier.relatedTypes name).length := List.length_filter_le _ _
    _ ≤ ((classifier.fieldsOf name).entries.map fun entry => entry.2.relatedType).length :=
      List.length_filter_le _ _
    _ = (classifier.fieldsOf name).size := List.length_map _

/-- Without turns nothing is taken up. -/
@[simp] theorem takenIn_nil : takenIn [] = [] := rfl

/-- A name that is passed over is not taken up. -/
@[simp] theorem takenIn_passed (name : String) (turns : List Turn) :
    takenIn (.passed name :: turns) = takenIn turns := rfl

/-- A name that is taken up comes before those of the other turns. -/
@[simp] theorem takenIn_taken (name : String) (turns : List Turn) :
    takenIn (.taken name :: turns) = name :: takenIn turns := rfl

/-- What a run takes up is seen, and nothing else is seen anew. -/
theorem Run.seen_eq {first last : Stage} {turns : List Turn}
    (run : classifier.Run first turns last) :
    last.discovery.seen = (takenIn turns).reverse ++ first.discovery.seen := by
  induction run with
  | done stage => rfl
  | step next others ih =>
    cases next with
    | passes passed => exact ih
    | takes fresh taken =>
      rw [ih, takenIn_taken, List.reverse_cons, List.append_assoc]
      rfl

/-- A run takes up schema types that have not been seen, each once. -/
theorem Run.takes_fresh {first last : Stage} {turns : List Turn}
    (run : classifier.Run first turns last) :
    (takenIn turns).Nodup ∧
      ∀ name ∈ takenIn turns, classifier.IsSchemaType name ∧ name ∉ first.discovery.seen := by
  induction run with
  | done stage => exact ⟨List.nodup_nil, nofun⟩
  | step turn others ih =>
    obtain ⟨once, fresh⟩ := ih
    cases turn with
    | passes passed => exact ⟨once, fresh⟩
    | takes unseen taken =>
      refine ⟨List.nodup_cons.mpr ⟨fun again => (fresh _ again).2 List.mem_cons_self, once⟩, ?_⟩
      intro other held
      rcases List.mem_cons.mp held with rfl | later
      · exact ⟨isSchemaType_of_role? taken, unseen⟩
      · obtain ⟨schemaType, unseen⟩ := fresh other later
        exact ⟨schemaType, fun seen => unseen (List.mem_cons_of_mem _ seen)⟩

/-- A run registers what it takes up, each type with its fields in the half of its kind, unless
this half held the name before; nothing else is registered, and what was registered stays. -/
theorem Run.registers {first last : Stage} {turns : List Turn}
    (run : classifier.Run first turns last) (role : Role) (name : String) :
    (last.discovery.registry.half role).find? name =
      ((first.discovery.registry.half role).find? name).or
        (if name ∈ takenIn turns ∧ (classifier.kindOf name).role? = some role then
          some (classifier.fieldsOf name) else none) := by
  induction run with
  | done stage => simp
  | step next others ih =>
    cases next with
    | passes passed => exact ih
    | @takes discovery taken rest half fresh known =>
      rw [ih, takeUp, Discovery.add, Registry.find?_half_add, Option.or_assoc]
      congr 1
      by_cases same : name = taken
      · subst same
        by_cases own : role = half
        · simp [own, known]
        · simp [own, Ne.symm own, known]
      · simp [same]

/-- A run takes a turn for each name that waited at first and for each field of what it takes up,
at most. -/
theorem Run.length_le {first last : Stage} {turns : List Turn}
    (run : classifier.Run first turns last) :
    turns.length + last.waiting.length ≤ first.waiting.length +
      ((takenIn turns).map fun name => (classifier.fieldsOf name).size).sum := by
  induction run with
  | done stage => simp
  | step next others ih =>
    cases next with
    | passes passed =>
      simp only [List.length_cons, takenIn_passed] at ih ⊢
      omega
    | @takes discovery name rest role fresh taken =>
      have related := classifier.newlyRelated_length_le discovery name
      simp only [List.length_append, List.length_cons, takenIn_taken, List.map_cons,
        List.sum_cons] at ih ⊢
      omega

/-- A discovery ends, and its work is linear. From no stage do turns go on for ever, and a discovery
is a run that ends where nothing waits, whatever has been seen and is registered at its beginning;
every other run from there is a beginning of this one. At each point of such a run the fields of a
type have been collected once at most, and only of schema types that had not been seen; these are
the types that have been seen anew, and each is registered with its fields, unless its half held the
name before; and there have been no more turns than one and one for each field of these types. -/
theorem discover_linear_work (classifier : Classifier) (discovery : Discovery) (root : String) :
    (WellFounded fun later earlier : Stage => ∃ turn, classifier.Step earlier turn later) ∧
      (∃ turns, classifier.Run ⟨discovery, [root]⟩ turns
          ⟨(classifier.discover discovery root).1, []⟩ ∧
        ∀ others last, classifier.Run ⟨discovery, [root]⟩ others last → others <+: turns) ∧
      ∀ turns last, classifier.Run ⟨discovery, [root]⟩ turns last →
        (takenIn turns).Nodup ∧
          (∀ name ∈ takenIn turns, classifier.IsSchemaType name ∧ name ∉ discovery.seen) ∧
          last.discovery.seen = (takenIn turns).reverse ++ discovery.seen ∧
          (∀ role name, (last.discovery.registry.half role).find? name =
            ((discovery.registry.half role).find? name).or
              (if name ∈ takenIn turns ∧ (classifier.kindOf name).role? = some role then
                some (classifier.fieldsOf name) else none)) ∧
          turns.length ≤
            1 + ((takenIn turns).map fun name => (classifier.fieldsOf name).size).sum := by
  obtain ⟨all, whole⟩ := run_visit classifier discovery [root]
  refine ⟨step_wellFounded classifier, ⟨all, whole, fun others last begun =>
    begun.prefix_of_ends whole rfl⟩, ?_⟩
  intro turns last run
  obtain ⟨once, fresh⟩ := run.takes_fresh
  exact ⟨once, fresh, run.seen_eq, run.registers, Nat.le_of_add_right_le run.length_le⟩

end Classifier

end SchemaProjection
