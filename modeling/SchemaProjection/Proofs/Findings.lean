import Mathlib.Data.List.Nodup
import Mathlib.Data.List.Perm.Basic
import SchemaProjection.Proofs.ViewCompilation

/-!
# Findings are exact

What is found on a type is found when the type is taken up, and a type is taken up once. So the
findings of a discovery are those on the seen types, one type after the other in the order in
which they were seen (`visit_findings`). The seen types are the reachable ones in whatever order
the roots come, hence another order of the roots permutes the findings and does nothing else.
`Justifies` says by the declarations alone when there is a finding; every justified finding on a
registered type is reported, none twice, and nothing else is.
-/
namespace SchemaProjection

/-- A field that is marked as an identifier, of one component or of several. -/
def FieldDecl.identifies (field : FieldDecl) : Bool :=
  field.isIdentifier || field.isEmbeddedIdentifier

namespace Classifier

/-- The effective fields of a type that are marked as identifiers, in their order. -/
def identifierFields (classifier : Classifier) (type : String) : List FieldDecl :=
  (classifier.model.persistentFields type).filter FieldDecl.identifies

/-- The declarations give reason for a finding: an entity has no identifier; or it has several,
which are listed in order, and no type of its ancestry names a composite; or an effective field
that is not marked as a plain identifier is marked as embedded in one way or the other, and its
declared type is no value object. -/
def Justifies (classifier : Classifier) : Finding → Prop
  | .missingIdentifier type =>
    classifier.kindOf type = .entityLike ∧
      ∀ field, classifier.model.IsClosest FieldDecl.isPersistent type field →
        field.identifies = false
  | .duplicateIdentifier type names =>
    classifier.kindOf type = .entityLike ∧
      names = (classifier.identifierFields type).map FieldDecl.name ∧ 2 ≤ names.length ∧
        ∀ decl ∈ classifier.model.ancestry type, decl.identifierClass = none
  | .notAValueObject owner name type =>
    ∃ field, classifier.model.IsClosest FieldDecl.isPersistent owner field ∧
      field.name = name ∧ field.type.text = type ∧ field.isIdentifier = false ∧
        (field.isEmbeddedIdentifier = true ∨ field.isEmbedded = true) ∧
          classifier.kindOf type ≠ .embeddableLike

/-- What is found on a name when it is taken up: nothing, unless it is a schema type. -/
def findingsOn (classifier : Classifier) (name : String) : List Finding :=
  (classifier.kindOf name).role?.elim [] fun role => classifier.findingsOf role name

variable {classifier : Classifier}

/-- A field is described as an identifier exactly when it is marked as one. -/
theorem describe_isIdentifier (field : FieldDecl) :
    (classifier.describe field).isIdentifier = field.identifies := by
  rw [describe, FieldDecl.identifies]
  dsimp only
  split_ifs with identifies
  · exact identifies.symm
  all_goals exact (eq_false_of_ne_true identifies).symm

/-- The identifiers of a type are the names of the fields that are marked so. -/
theorem identifiersOf_eq (type : String) :
    classifier.identifiersOf type = (classifier.identifierFields type).map FieldDecl.name := by
  rw [identifiersOf, fieldsOf, identifierFields, List.filter_map, List.map_map]
  simp only [Function.comp_def, describe_isIdentifier]

/-- No member of the ancestry of a type names a composite identifier. -/
theorem hasComposite_eq_false_iff {type : String} :
    classifier.hasComposite type = false ↔
      ∀ decl ∈ classifier.model.ancestry type, decl.identifierClass = none := by
  simp [hasComposite]

/-- The finding on the identifiers of a type is that there are none, or several that form no
composite. -/
theorem identifierFinding?_eq_some_iff {type : String} {finding : Finding} :
    classifier.identifierFinding? type = some finding ↔
      (classifier.identifiersOf type = [] ∧ finding = .missingIdentifier type) ∨
        (2 ≤ (classifier.identifiersOf type).length ∧ classifier.hasComposite type = false ∧
          finding = .duplicateIdentifier type (classifier.identifiersOf type)) := by
  rw [identifierFinding?]
  cases identifiers : classifier.identifiersOf type with
  | nil => simp [@eq_comm _ finding]
  | cons first rest =>
    cases rest with
    | nil => simp
    | cons second rest =>
      cases composite : classifier.hasComposite type <;> simp [@eq_comm _ finding]

/-- There is a finding on a field exactly when it is marked as embedded, is no plain identifier,
and is of a type that is no value object. -/
theorem embeddingFinding?_eq_some_iff {owner : String} {field : FieldDecl} {finding : Finding} :
    classifier.embeddingFinding? owner field = some finding ↔
      field.isIdentifier = false ∧
        (field.isEmbeddedIdentifier = true ∨ field.isEmbedded = true) ∧
          classifier.kindOf field.type.text ≠ .embeddableLike ∧
            finding = .notAValueObject owner field.name field.type.text := by
  rw [embeddingFinding?]
  simp [and_assoc, @eq_comm _ finding]

/-- A name has the findings on its fields, if it is a schema type, and the one on its
identifiers, if it is an entity. -/
theorem mem_findingsOn_cases {name : String} {finding : Finding} :
    finding ∈ classifier.findingsOn name ↔
      (classifier.IsSchemaType name ∧ ∃ field ∈ classifier.model.persistentFields name,
        classifier.embeddingFinding? name field = some finding) ∨
      (classifier.kindOf name = .entityLike ∧
        classifier.identifierFinding? name = some finding) := by
  rw [findingsOn, IsSchemaType]
  cases classifier.kindOf name <;> simp [Kind.role?, findingsOf]

/-- A type has no identifiers exactly when no effective field of it is marked as one. -/
theorem identifiersOf_eq_nil_iff {type : String} :
    classifier.identifiersOf type = [] ↔
      ∀ field, classifier.model.IsClosest FieldDecl.isPersistent type field →
        field.identifies = false := by
  simp only [identifiersOf_eq, List.map_eq_nil_iff, identifierFields, List.filter_eq_nil_iff,
    Model.persistentFields, Model.mem_effectiveFields_iff, Bool.not_eq_true]

/-- The findings on a name are the justified ones, if it is a schema type. -/
theorem mem_findingsOn_iff {name : String} {finding : Finding} :
    finding ∈ classifier.findingsOn name ↔
      finding.owner = name ∧ classifier.IsSchemaType name ∧ classifier.Justifies finding := by
  have entityIsSchemaType : classifier.kindOf name = .entityLike → classifier.IsSchemaType name :=
    .inl
  rw [mem_findingsOn_cases]
  simp only [embeddingFinding?_eq_some_iff, identifierFinding?_eq_some_iff,
    Model.persistentFields, Model.mem_effectiveFields_iff]
  cases finding with
  | missingIdentifier type =>
    simp only [Finding.owner, Justifies, identifiersOf_eq_nil_iff, reduceCtorEq, and_false,
      exists_false, false_or, or_false, Finding.missingIdentifier.injEq]
    constructor
    · rintro ⟨entity, unidentified, rfl⟩
      exact ⟨rfl, entityIsSchemaType entity, entity, unidentified⟩
    · rintro ⟨rfl, -, entity, unidentified⟩
      exact ⟨entity, unidentified, rfl⟩
  | duplicateIdentifier type names =>
    simp only [Finding.owner, Justifies, identifiersOf_eq, hasComposite_eq_false_iff,
      reduceCtorEq, and_false, exists_false, false_or, Finding.duplicateIdentifier.injEq]
    constructor
    · rintro ⟨entity, several, plain, rfl, rfl⟩
      exact ⟨rfl, entityIsSchemaType entity, entity, rfl, several, plain⟩
    · rintro ⟨rfl, -, entity, rfl, several, plain⟩
      exact ⟨entity, several, plain, rfl, rfl⟩
  | notAValueObject owner field type =>
    simp only [Finding.owner, Justifies, reduceCtorEq, and_false, or_false,
      Finding.notAValueObject.injEq]
    constructor
    · rintro ⟨schemaType, decl, closest, plain, embedded, other, rfl, rfl, rfl⟩
      exact ⟨rfl, schemaType, decl, closest, rfl, rfl, plain, embedded, other⟩
    · rintro ⟨rfl, schemaType, decl, closest, rfl, rfl, plain, embedded, other⟩
      exact ⟨schemaType, decl, closest, plain, embedded, other, rfl, rfl, rfl⟩

/-- No finding on a name is told twice: the effective fields have different names. -/
theorem findingsOn_nodup (name : String) : (classifier.findingsOn name).Nodup := by
  have names : ((classifier.model.persistentFields name).map FieldDecl.name).Nodup :=
    Model.closest_names_nodup _
  have fields : ((classifier.model.persistentFields name).filterMap
      (classifier.embeddingFinding? name)).Nodup := by
    refine (List.pairwise_map.mp names).filterMap _ fun field other differ first found second
      otherFound same => differ ?_
    obtain ⟨-, -, -, rfl⟩ := embeddingFinding?_eq_some_iff.mp found
    obtain ⟨-, -, -, rfl⟩ := embeddingFinding?_eq_some_iff.mp otherFound
    exact (Finding.notAValueObject.inj same).2.1
  rw [findingsOn]
  cases role : (classifier.kindOf name).role? with
  | none => exact List.nodup_nil
  | some role =>
    refine List.nodup_append'.mpr ⟨fields, ?_, ?_⟩
    · split
      · exact Option.toList_nodup _
      · exact List.nodup_nil
    · intro finding onField onIdentifiers
      obtain ⟨field, -, found⟩ := List.mem_filterMap.mp onField
      obtain ⟨-, -, -, rfl⟩ := embeddingFinding?_eq_some_iff.mp found
      split at onIdentifiers
      · simp [identifierFinding?_eq_some_iff] at onIdentifiers
      · cases onIdentifiers

/-- Since an earlier discovery further names have been seen, and what is reported is what is
found on these, one name after the other in the order in which they were seen. -/
def Reports (classifier : Classifier) (before : Discovery)
    (outcome : Discovery × List Finding) : Prop :=
  ∃ further : List String, outcome.1.seen = further.reverse ++ before.seen ∧
    outcome.2 = further.flatMap classifier.findingsOn

/-- What is reported of two discoveries, the later one after the earlier. -/
theorem Reports.append {before : Discovery} {first later : Discovery × List Finding}
    (reported : classifier.Reports before first) (further : classifier.Reports first.1 later) :
    classifier.Reports before (later.1, first.2 ++ later.2) := by
  obtain ⟨names, seen, findings⟩ := reported
  obtain ⟨others, seenLater, findingsLater⟩ := further
  refine ⟨names ++ others, ?_, ?_⟩
  · rw [seenLater, seen, List.reverse_append, List.append_assoc]
  · rw [findings, findingsLater, List.flatMap_append]

/-- A visit reports the findings on the names that it sees. -/
theorem visit_reports (discovery : Discovery) (waiting : List String) :
    classifier.Reports discovery (classifier.visit discovery waiting) := by
  induction discovery, waiting using visit_induction classifier with
  | done discovery =>
    rw [visit]
    exact ⟨[], rfl, rfl⟩
  | passes discovery name rest passed ih =>
    rw [visit_passed rest passed]
    exact ih
  | takes discovery name rest role fresh taken ih =>
    have onName : classifier.findingsOf role name = [name].flatMap classifier.findingsOn := by
      rw [List.flatMap_singleton, findingsOn, taken, Option.elim_some]
    have first : classifier.Reports discovery
        (classifier.takeUp discovery role name, classifier.findingsOf role name) :=
      ⟨[name], rfl, onName⟩
    rw [visit_fresh rest fresh taken]
    exact first.append ih

/-- Discovery from several roots reports the findings on the names that it sees. -/
theorem discoverAll_reports (discovery : Discovery) (roots : List String) :
    classifier.Reports discovery (classifier.discoverAll discovery roots) := by
  induction roots generalizing discovery with
  | nil => exact ⟨[], rfl, rfl⟩
  | cons root rest ih => exact (visit_reports discovery [root]).append (ih _)

/-- From nothing, the findings are those on the seen names. -/
theorem discoverAll_empty_findings (roots : List String) :
    (classifier.discoverAll .empty roots).2 =
      (classifier.discoverAll .empty roots).1.seen.reverse.flatMap classifier.findingsOn := by
  have reported : classifier.Reports .empty (classifier.discoverAll .empty roots) :=
    discoverAll_reports .empty roots
  obtain ⟨further, seen, findings⟩ := reported
  rw [seen, findings, Discovery.empty, List.append_nil, List.reverse_reverse]

/-- From nothing, the seen names are the reachable ones. -/
theorem mem_seen_discoverAll_empty_iff {roots : List String} {name : String} :
    name ∈ (classifier.discoverAll .empty roots).1.seen ↔ classifier.Reachable roots name := by
  rw [mem_seen_discoverAll_iff faithful_empty fun _ held => by cases held]
  simp [Discovery.empty]

/-- Roots are taken one after the other, with what was discovered before and its findings. -/
theorem discoverAll_append (discovery : Discovery) (roots rest : List String) :
    classifier.discoverAll discovery (roots ++ rest) =
      ((classifier.discoverAll (classifier.discoverAll discovery roots).1 rest).1,
        (classifier.discoverAll discovery roots).2 ++
          (classifier.discoverAll (classifier.discoverAll discovery roots).1 rest).2) := by
  induction roots generalizing discovery with
  | nil => rfl
  | cons root roots ih => simp only [List.cons_append, discoverAll, ih, List.append_assoc]

/-- Roots with the same members reach the same types. -/
theorem reachable_congr {roots others : List String} (same : ∀ root, root ∈ roots ↔ root ∈ others)
    {name : String} : classifier.Reachable roots name ↔ classifier.Reachable others name :=
  ⟨Reachable.mono fun root => (same root).mp, Reachable.mono fun root => (same root).mpr⟩

/-- From nothing, each name is seen once. -/
theorem seen_reverse_nodup (roots : List String) :
    (classifier.discoverAll .empty roots).1.seen.reverse.Nodup :=
  List.nodup_reverse.mpr (faithful_empty.discoverAll roots).unique

/-- Roots with the same members let the same names be seen, in some order. -/
theorem seen_reverse_perm {roots others : List String}
    (same : ∀ root, root ∈ roots ↔ root ∈ others) :
    (classifier.discoverAll .empty roots).1.seen.reverse.Perm
      (classifier.discoverAll .empty others).1.seen.reverse := by
  refine (List.perm_ext_iff_of_nodup (seen_reverse_nodup roots)
    (seen_reverse_nodup others)).mpr fun name => ?_
  rw [List.mem_reverse, List.mem_reverse, mem_seen_discoverAll_empty_iff,
    mem_seen_discoverAll_empty_iff, reachable_congr same]

/-- Names that have been seen or are no schema types are passed over without a trace. -/
theorem visit_of_settled {discovery : Discovery} {waiting : List String}
    (settled : ∀ name ∈ waiting, name ∈ discovery.seen ∨ ¬classifier.IsSchemaType name) :
    classifier.visit discovery waiting = (discovery, []) := by
  induction waiting with
  | nil => rw [visit]
  | cons name rest ih =>
    rw [List.forall_mem_cons] at settled
    rw [visit_passed rest settled.1, ih settled.2]

/-- Roots that have been seen or are no schema types change nothing. -/
theorem discoverAll_of_settled {discovery : Discovery} {roots : List String}
    (settled : ∀ root ∈ roots, root ∈ discovery.seen ∨ ¬classifier.IsSchemaType root) :
    classifier.discoverAll discovery roots = (discovery, []) := by
  induction roots with
  | nil => rfl
  | cons root rest ih =>
    rw [List.forall_mem_cons] at settled
    have first : classifier.discover discovery root = (discovery, []) :=
      visit_of_settled (by simpa using settled.1)
    rw [discoverAll, first, ih settled.2]
    rfl

/-- Roots from which a schema was discovered change nothing when they come again. -/
theorem discoverAll_again {roots again : List String} (included : again ⊆ roots) :
    classifier.discoverAll (classifier.discoverAll .empty roots).1 again =
      ((classifier.discoverAll .empty roots).1, []) := by
  refine discoverAll_of_settled fun root listed => ?_
  by_cases schemaType : classifier.IsSchemaType root
  · exact .inl (mem_seen_discoverAll_empty_iff.mpr (reachable_root (included listed) schemaType))
  · exact .inr schemaType

end Classifier

/-- A finding is reported exactly when it is on a registered type and the declarations give
reason for it. -/
theorem mem_discoverSchema_findings_iff (settings : CompilerSettings) (model : Model)
    (roots : List String) {finding : Finding} :
    finding ∈ (discoverSchema settings model roots).2 ↔
      (discoverSchema settings model roots).1.contains finding.owner = true ∧
        (settings.classifier model).Justifies finding := by
  change finding ∈ ((settings.classifier model).discoverAll .empty roots).2 ↔ _
  rw [discoverSchema_contains_iff, Classifier.discoverAll_empty_findings, List.mem_flatMap]
  simp only [List.mem_reverse, Classifier.mem_seen_discoverAll_empty_iff,
    Classifier.mem_findingsOn_iff]
  constructor
  · rintro ⟨name, reachable, rfl, -, justified⟩
    exact ⟨reachable, justified⟩
  · rintro ⟨reachable, justified⟩
    exact ⟨finding.owner, reachable, rfl, reachable.isSchemaType, justified⟩

/-- No finding is reported twice: each type is taken up once, and a finding tells its type. -/
theorem discoverSchema_findings_nodup (settings : CompilerSettings) (model : Model)
    (roots : List String) : (discoverSchema settings model roots).2.Nodup := by
  change ((settings.classifier model).discoverAll .empty roots).2.Nodup
  rw [Classifier.discoverAll_empty_findings, List.nodup_flatMap]
  refine ⟨fun name _ => Classifier.findingsOn_nodup name, ?_⟩
  refine (Classifier.seen_reverse_nodup roots).imp fun differ finding onFirst onSecond => differ ?_
  rw [← (Classifier.mem_findingsOn_iff.mp onFirst).1, (Classifier.mem_findingsOn_iff.mp onSecond).1]

/-- The findings of the first roots come first. -/
theorem discoverSchema_findings_prefix (settings : CompilerSettings) (model : Model)
    {roots all : List String} (first : roots <+: all) :
    (discoverSchema settings model roots).2 <+: (discoverSchema settings model all).2 := by
  obtain ⟨rest, rfl⟩ := first
  change _ <+: ((settings.classifier model).discoverAll .empty (roots ++ rest)).2
  rw [Classifier.discoverAll_append]
  exact List.prefix_append ..

/-- Findings are exact, reported once, and independent of the order of the roots. Two lists of
roots with the same members discover the same types in the same halves with the same fields, and
report the same findings, in some order. The findings are without repetition those on registered
types for which the declarations give reason. Roots that come again, in any order and number,
change nothing and report nothing. -/
theorem discoverSchema_findings_exact (settings : CompilerSettings) (model : Model)
    {roots others : List String} (same : ∀ root, root ∈ roots ↔ root ∈ others) :
    let classifier := settings.classifier model
    let first := discoverSchema settings model roots
    let second := discoverSchema settings model others
    let built := (classifier.discoverAll .empty roots).1
    (first.1.entities.entries.Perm second.1.entities.entries ∧
        first.1.embeddables.entries.Perm second.1.embeddables.entries ∧
          first.2.Perm second.2) ∧
      (first.2.Nodup ∧ ∀ finding, finding ∈ first.2 ↔
        first.1.contains finding.owner = true ∧ classifier.Justifies finding) ∧
      (first.1 = built.registry ∧
        ∀ again, again ⊆ roots → classifier.discoverAll built again = (built, [])) := by
  intro classifier first second built
  have seen : built.seen.reverse.Perm (classifier.discoverAll .empty others).1.seen.reverse :=
    Classifier.seen_reverse_perm same
  have faithful : classifier.Faithful built := Classifier.faithful_empty.discoverAll roots
  have otherFaithful : classifier.Faithful (classifier.discoverAll .empty others).1 :=
    Classifier.faithful_empty.discoverAll others
  have entities : first.1.entities.entries.Perm second.1.entities.entries := by
    change built.registry.entities.entries.Perm _
    rw [faithful.entities]
    refine .trans ?_ (.of_eq otherFaithful.entities.symm)
    exact (seen.filter _).map _
  have embeddables : first.1.embeddables.entries.Perm second.1.embeddables.entries := by
    change built.registry.embeddables.entries.Perm _
    rw [faithful.embeddables]
    refine .trans ?_ (.of_eq otherFaithful.embeddables.symm)
    exact (seen.filter _).map _
  have findings : first.2.Perm second.2 := by
    change (classifier.discoverAll .empty roots).2.Perm (classifier.discoverAll .empty others).2
    rw [Classifier.discoverAll_empty_findings, Classifier.discoverAll_empty_findings]
    exact seen.flatMap_right _
  exact ⟨⟨entities, embeddables, findings⟩,
    ⟨discoverSchema_findings_nodup settings model roots,
      fun finding => mem_discoverSchema_findings_iff settings model roots⟩,
    rfl, fun again included => Classifier.discoverAll_again included⟩

/-- An order of a customer, with two identifiers and an embedded total. -/
def customerOrder : TypeDecl :=
  { Compilation.plainType "Order" with
    isEntity := true
    fields :=
      [{ Compilation.plainField "number" (.named "Long") with isIdentifier := true },
        { Compilation.plainField "year" (.named "int") with isIdentifier := true },
        { Compilation.plainField "total" (.named "Money") with isEmbedded := true },
        Compilation.plainField "customer" (.named "Customer")] }

/-- A customer without an identifier. -/
def customer : TypeDecl :=
  { Compilation.plainType "Customer" with
    isEntity := true
    fields := [Compilation.plainField "orders" (.generic "List" [.named "Order"])] }

/-- Orders and customers that refer to each other; money is no declared type. -/
def customerOrders : Model := ⟨[customerOrder, customer], by decide, none⟩

/-- Whether orders or customers come first, the findings are the same, and one of them is that
the total of an order is no value object. -/
theorem customerOrders_findings :
    (∀ root, root ∈ ["Order", "Customer"] ↔ root ∈ ["Customer", "Order", "Customer"]) ∧
      (discoverSchema .standard customerOrders ["Order", "Customer"]).2.Perm
        (discoverSchema .standard customerOrders ["Customer", "Order", "Customer"]).2 ∧
      .notAValueObject "Order" "total" "Money" ∈
        (discoverSchema .standard customerOrders ["Order", "Customer"]).2 := by
  have same : ∀ root, root ∈ ["Order", "Customer"] ↔ root ∈ ["Customer", "Order", "Customer"] := by
    simp [or_comm]
  obtain ⟨⟨-, -, findings⟩, ⟨-, reported⟩, -⟩ :=
    discoverSchema_findings_exact .standard customerOrders same
  have ancestry : customerOrders.ancestry "Order" = [customerOrder] :=
    Model.ancestry_of_parentless rfl rfl
  have registered : (discoverSchema .standard customerOrders ["Order", "Customer"]).1.contains
      "Order" = true := by
    rw [discoverSchema_contains_iff]
    exact Classifier.reachable_root List.mem_cons_self (.inl (by decide))
  have closest : customerOrders.IsClosest FieldDecl.isPersistent "Order"
      { Compilation.plainField "total" (.named "Money") with isEmbedded := true } := by
    rw [Model.IsClosest, ancestry]
    decide
  have justified : (CompilerSettings.standard.classifier customerOrders).Justifies
      (.notAValueObject "Order" "total" "Money") :=
    ⟨_, closest, rfl, rfl, rfl, .inr rfl, by decide⟩
  exact ⟨same, findings, (reported _).mpr ⟨registered, justified⟩⟩

end SchemaProjection
