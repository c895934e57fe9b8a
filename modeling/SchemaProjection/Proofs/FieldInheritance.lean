import Mathlib.Data.List.Nodup
import Mathlib.Data.List.TakeWhile
import SchemaProjection.Proofs.ViewCompilation

/-!
# The closest declaration wins

Schema types and views inherit fields by one rule, in which only the condition on a declaration
differs: of the declarations over an ancestry that satisfy the condition, the first of each name
counts, and the names come in the order of these first ones (`FirstOfEach`). It is the same to go
through the declarations in turn and to pass over every name that is held already
(`entries_gathered`). The rule is compositional: a type has its own fields and behind them what
its supertype has under other names (`effectiveFields_of_parent`). A declaration that does not
satisfy the condition hides nothing.
-/
namespace SchemaProjection.Model

/-- The place of the first declaration of a name that counts. -/
def firstPlace (holds : FieldDecl → Bool) (declared : List FieldDecl) (name : String) : Nat :=
  declared.findIdx fun field => holds field && field.name == name

/-- Of some declarations those that are the first of their names among the ones that count, in the
order in which they are declared. -/
structure FirstOfEach (holds : FieldDecl → Bool) (declared fields : List FieldDecl) : Prop where
  /-- A field is listed when it is the first declaration of its name that counts. -/
  first : ∀ field, field ∈ fields ↔
    declared.find? (fun other => holds other && other.name == field.name) = some field
  /-- A field that is declared before another one is listed before it. -/
  ordered : fields.Pairwise fun earlier later =>
    firstPlace holds declared earlier.name < firstPlace holds declared later.name

/-- The fields that have none of some names. -/
def otherwiseNamed (names : List String) (fields : List FieldDecl) : List FieldDecl :=
  fields.filter fun field => field.name ∉ names

/-- Take up declarations in turn, each under its name with a value, and pass over those whose names
are held already. -/
def gathered {α : Type} (value : FieldDecl → α) (table : Table α) : List FieldDecl → Table α
  | [] => table
  | field :: rest => gathered value (table.add field.name (value field)) rest

variable {holds : FieldDecl → Bool}

/-- A field has none of some names when it is among the others. -/
theorem mem_otherwiseNamed {names : List String} {fields : List FieldDecl} {field : FieldDecl} :
    field ∈ otherwiseNamed names fields ↔ field ∈ fields ∧ field.name ∉ names := by
  rw [otherwiseNamed, List.mem_filter, decide_eq_true_eq]

/-- It matters which names there are, not how often or in which order. -/
theorem otherwiseNamed_congr {names others : List String}
    (same : ∀ name, name ∈ names ↔ name ∈ others) (fields : List FieldDecl) :
    otherwiseNamed names fields = otherwiseNamed others fields :=
  List.filter_congr fun field _ => by simp only [same]

/-- Fields that have none of some names and none of others have none of all. -/
theorem otherwiseNamed_otherwiseNamed (names others : List String) (fields : List FieldDecl) :
    otherwiseNamed names (otherwiseNamed others fields) =
      otherwiseNamed (names ++ others) fields := by
  unfold otherwiseNamed
  rw [List.filter_filter]
  apply List.filter_congr
  intro field _
  simp

/-- Behind a field come the closest of the others that have another name. -/
theorem closest_cons (field : FieldDecl) (rest : List FieldDecl) :
    closest (field :: rest) = field :: otherwiseNamed [field.name] (closest rest) := by
  rw [closest, otherwiseNamed]
  congr 1
  apply List.filter_congr
  intro other _
  rw [Bool.eq_iff_iff]
  simp

/-- A declaration of another name that stands before all others moves the first place of a name by
one. -/
theorem firstPlace_cons_of_other {declared : List FieldDecl} {field : FieldDecl} {name : String}
    (other : ¬(holds field = true ∧ field.name = name)) :
    firstPlace holds (field :: declared) name = firstPlace holds declared name + 1 := by
  have passed : (holds field && field.name == name) = false := by
    rw [← Bool.not_eq_true, Bool.and_eq_true, beq_iff_eq]
    exact other
  rw [firstPlace, firstPlace, List.findIdx_cons, passed]
  rfl

/-- The closest fields come in the order of their first declarations. -/
theorem closest_ordered (declared : List FieldDecl) :
    (closest (declared.filter holds)).Pairwise fun earlier later =>
      firstPlace holds declared earlier.name < firstPlace holds declared later.name := by
  induction declared with
  | nil => exact List.Pairwise.nil
  | cons field rest ih =>
    by_cases counts : holds field = true
    · rw [List.filter_cons_of_pos counts, closest_cons, List.pairwise_cons]
      have moved {later : FieldDecl} (other : later.name ≠ field.name) :
          firstPlace holds (field :: rest) later.name = firstPlace holds rest later.name + 1 :=
        firstPlace_cons_of_other fun same => other same.2.symm
      constructor
      · intro later listed
        have here : firstPlace holds (field :: rest) field.name = 0 := by
          simp [firstPlace, List.findIdx_cons, counts]
        have other : later.name ≠ field.name := by simpa using (mem_otherwiseNamed.mp listed).2
        rw [here, moved other]
        exact Nat.succ_pos _
      · rw [otherwiseNamed, List.pairwise_filter]
        refine ih.imp fun before first second => ?_
        rw [moved (by simpa using first), moved (by simpa using second)]
        exact Nat.succ_lt_succ before
    · have moved (name : String) :
          firstPlace holds (field :: rest) name = firstPlace holds rest name + 1 :=
        firstPlace_cons_of_other fun same => counts same.1
      rw [List.filter_cons_of_neg counts]
      refine ih.imp fun before => ?_
      rw [moved, moved]
      exact Nat.succ_lt_succ before

/-- The closest of the declarations that count are the first ones of each name. -/
theorem firstOfEach_closest (declared : List FieldDecl) :
    FirstOfEach holds declared (closest (declared.filter holds)) where
  first := by
    intro field
    rw [mem_closest_iff, List.find?_filter]
    simp only [Bool.decide_and, Bool.decide_eq_true]
  ordered := closest_ordered declared

/-- The first fields of each name are determined. -/
theorem FirstOfEach.unique {declared fields others : List FieldDecl}
    (listed : FirstOfEach holds declared fields) (relisted : FirstOfEach holds declared others) :
    fields = others := by
  have distinct {list : List FieldDecl} (firsts : FirstOfEach holds declared list) :
      list.Nodup := by
    apply firsts.ordered.imp
    intro earlier later before same
    rw [same] at before
    exact Nat.lt_irrefl _ before
  have permuted : fields.Perm others := by
    rw [List.perm_ext_iff_of_nodup (distinct listed) (distinct relisted)]
    intro field
    rw [listed.first, relisted.first]
  exact permuted.eq_of_pairwise
    (fun _ _ _ _ before behind => absurd behind (Nat.lt_asymm before)) listed.ordered
    relisted.ordered

/-- The closest fields have the names that there are. -/
theorem mem_closest_names_iff {fields : List FieldDecl} {name : String} :
    name ∈ (closest fields).map FieldDecl.name ↔ name ∈ fields.map FieldDecl.name := by
  induction fields with
  | nil => rfl
  | cons field rest ih =>
    have behind : name ∈ (otherwiseNamed [field.name] (closest rest)).map FieldDecl.name ↔
        name ∈ rest.map FieldDecl.name ∧ name ≠ field.name := by
      rw [← ih]
      simp only [List.mem_map, mem_otherwiseNamed, List.mem_singleton]
      constructor
      · rintro ⟨other, ⟨listed, differs⟩, rfl⟩
        exact ⟨⟨other, listed, rfl⟩, differs⟩
      · rintro ⟨⟨other, listed, rfl⟩, differs⟩
        exact ⟨other, ⟨listed, differs⟩, rfl⟩
    rw [closest_cons, List.map_cons, List.map_cons, List.mem_cons, List.mem_cons, behind]
    by_cases same : name = field.name <;> simp [same]

/-- Behind the closest of some fields come the closest of further ones that have other names. -/
theorem closest_append (front back : List FieldDecl) :
    closest (front ++ back) =
      closest front ++ otherwiseNamed (front.map FieldDecl.name) (closest back) := by
  induction front with
  | nil => simp [closest, otherwiseNamed]
  | cons field rest ih =>
    have joined (left right : List FieldDecl) : otherwiseNamed [field.name] (left ++ right) =
        otherwiseNamed [field.name] left ++ otherwiseNamed [field.name] right :=
      List.filter_append left right
    rw [List.cons_append, closest_cons, closest_cons, ih, joined, otherwiseNamed_otherwiseNamed]
    rfl

/-- Taking up fields in turn adds the closest of them whose names are not held. -/
theorem entries_gathered {α : Type} (value : FieldDecl → α) (table : Table α)
    (fields : List FieldDecl) :
    (gathered value table fields).entries =
      table.entries ++ (otherwiseNamed table.names (closest fields)).map
        fun field => (field.name, value field) := by
  induction fields generalizing table with
  | nil => exact (List.append_nil _).symm
  | cons field rest ih =>
    rw [gathered, ih, closest_cons]
    by_cases held : field.name ∈ table.names
    · have passed : otherwiseNamed table.names
          (field :: otherwiseNamed [field.name] (closest rest)) =
            otherwiseNamed table.names (otherwiseNamed [field.name] (closest rest)) :=
        List.filter_cons_of_neg (by simpa using held)
      have same : ∀ name, name ∈ table.names ↔ name ∈ table.names ++ [field.name] := by
        simp [held]
      rw [Table.add_of_mem held, passed, otherwiseNamed_otherwiseNamed, otherwiseNamed_congr same]
    · have taken : otherwiseNamed table.names
          (field :: otherwiseNamed [field.name] (closest rest)) =
            field :: otherwiseNamed table.names (otherwiseNamed [field.name] (closest rest)) :=
        List.filter_cons_of_pos (by simpa using held)
      have names : (table.add field.name (value field)).names = table.names ++ [field.name] := by
        rw [Table.names, Table.entries_add held, List.map_append]
        rfl
      rw [Table.entries_add held, taken, otherwiseNamed_otherwiseNamed, names, List.append_assoc]
      rfl

/-- A type that is not among the supertypes of its supertype has its own fields and behind them
those of the supertype under other names. -/
theorem effectiveFields_of_parent {model : Model} {type parent : String} {decl : TypeDecl}
    (found : model.lookup type = some decl) (proper : decl.properParent = some parent)
    (acyclic : ∀ above ∈ model.ancestry parent, above.name ≠ type) :
    model.effectiveFields holds type =
      closest (decl.fields.filter holds) ++
        otherwiseNamed ((decl.fields.filter holds).map FieldDecl.name)
          (model.effectiveFields holds parent) := by
  have whole : ((model.ancestry parent).takeWhile fun above => above.name != type) =
      model.ancestry parent := by
    rw [List.takeWhile_eq_self_iff]
    intro above inherited
    exact bne_iff_ne.mpr (acyclic above inherited)
  rw [effectiveFields, ancestry_of_parent found proper, whole, List.flatMap_cons, closest_append]
  rfl

/-- What every type of a model has under names, where the declarations that satisfy a condition
count and each gives a value to its name: the closest of them wins, in whatever type of the ancestry
it stands. -/
structure ClosestWins {α : Type} (model : Model) (holds : FieldDecl → Bool)
    (value : FieldDecl → α) (entries : String → List (String × α)) : Prop where
  /-- Every name has at most one entry. -/
  unique : ∀ type, ((entries type).map Prod.fst).Nodup
  /-- The names are those of the declarations over the ancestry that count. -/
  names : ∀ type name, name ∈ (entries type).map Prod.fst ↔
    ∃ decl ∈ model.ancestry type, ∃ field ∈ decl.fields, holds field = true ∧ field.name = name
  /-- The entries are those of the first declarations of their names among the ones that count, in
  the order of the declarations. -/
  closest : ∀ type, ∃ fields,
    FirstOfEach holds ((model.ancestry type).flatMap TypeDecl.fields) fields ∧
      entries type = fields.map fun field => (field.name, value field)
  /-- The entries are gathered over the ancestry by passing over the names that are held already. -/
  inTurn : ∀ type, entries type =
    (gathered value .empty
      (((model.ancestry type).flatMap TypeDecl.fields).filter holds)).entries
  /-- A type that is not among the supertypes of its supertype has its own entries, and behind them
  those of the supertype, in their order, for which it declares nothing that counts. -/
  inherits : ∀ type decl parent, model.lookup type = some decl → decl.parent = some parent →
    parent ∉ universalTypes → (∀ above ∈ model.ancestry parent, above.name ≠ type) →
      ∃ own, FirstOfEach holds decl.fields own ∧
        entries type = own.map (fun field => (field.name, value field)) ++
          (entries parent).filter fun entry =>
            ∀ field ∈ decl.fields, holds field = true → field.name ≠ entry.1

/-- The effective fields of the types of a model are the closest ones. -/
theorem effectiveFields_closestWins {α : Type} (model : Model) (holds : FieldDecl → Bool)
    (value : FieldDecl → α) :
    model.ClosestWins holds value fun type =>
      (model.effectiveFields holds type).map fun field => (field.name, value field) where
  unique := by
    intro type
    rw [List.map_map]
    exact closest_names_nodup _
  names := by
    intro type name
    rw [List.map_map]
    change name ∈ (Model.closest _).map FieldDecl.name ↔ _
    rw [mem_closest_names_iff]
    simp only [List.mem_map, List.mem_flatMap, List.mem_filter]
    constructor
    · rintro ⟨field, ⟨decl, inherited, declared, counts⟩, named⟩
      exact ⟨decl, inherited, field, declared, counts, named⟩
    · rintro ⟨decl, inherited, field, declared, counts, named⟩
      exact ⟨field, ⟨decl, inherited, declared, counts⟩, named⟩
  closest := by
    intro type
    refine ⟨model.effectiveFields holds type, ?_, rfl⟩
    rw [effectiveFields, ← List.filter_flatMap]
    exact firstOfEach_closest _
  inTurn := by
    intro type
    have unheld (fields : List FieldDecl) : otherwiseNamed (Table.empty (α := α)).names fields =
        fields := List.filter_eq_self.mpr fun _ _ => by simp [Table.names, Table.empty]
    rw [entries_gathered, unheld, effectiveFields, List.filter_flatMap]
    rfl
  inherits := by
    intro type decl parent found extended proper acyclic
    have properParent : decl.properParent = some parent := by
      rw [TypeDecl.properParent, extended, Option.filter_some]
      simp [proper]
    refine ⟨Model.closest (decl.fields.filter holds), firstOfEach_closest _, ?_⟩
    rw [effectiveFields_of_parent found properParent acyclic, List.map_append, List.filter_map]
    congr 2
    apply List.filter_congr
    intro field _
    simp

end SchemaProjection.Model

namespace SchemaProjection.Classifier

/-- Schema types and views inherit alike. The fields of a schema type are the closest persistent
declarations, and those that a view has to fill the closest mapped ones: each name once, as the
first declaration over the ancestry that counts, in the order of these; and where a type extends
another one that does not lead back to it, its own followed by the inherited ones of other
names. -/
theorem fields_closest_wins (classifier : Classifier) :
    classifier.model.ClosestWins FieldDecl.isPersistent classifier.describe
        (fun type => (classifier.fieldsOf type).entries) ∧
      classifier.model.ClosestWins FieldDecl.isMapped id
        (fun view => (classifier.model.mappedFields view).map fun field => (field.name, field)) :=
  ⟨Model.effectiveFields_closestWins _ _ _, Model.effectiveFields_closestWins _ _ _⟩

/-- A paper with a number. -/
def paper : TypeDecl :=
  { Compilation.plainType "Paper" with
    fields :=
      [Compilation.plainField "number" (.named "Long"),
        Compilation.plainField "issuer" (.named "String")] }

/-- A paper that declares its number anew and an issuer that is not stored. -/
def invoice : TypeDecl :=
  { Compilation.plainType "Invoice" with
    parent := some "Paper"
    fields :=
      [Compilation.plainField "total" (.named "Money"),
        { Compilation.plainField "issuer" (.named "Firm") with isTransient := true },
        Compilation.plainField "number" (.named "String")] }

/-- The two papers. -/
def papers : Classifier := ⟨⟨[paper, invoice], by decide, none⟩, []⟩

/-- An invoice has its own total and number and behind them the issuer of a paper. -/
theorem invoice_fields_inherited :
    (papers.model.lookup "Invoice" = some invoice ∧ invoice.parent = some "Paper" ∧
        "Paper" ∉ universalTypes ∧
        ∀ above ∈ papers.model.ancestry "Paper", above.name ≠ "Invoice") ∧
      (papers.fieldsOf "Invoice").entries =
        [("total", .single (.named "Money")), ("number", .single (.named "String")),
          ("issuer", .single (.named "String"))] := by
  have ancestry : papers.model.ancestry "Paper" = [paper] := Model.ancestry_of_parentless rfl rfl
  have acyclic : ∀ above ∈ papers.model.ancestry "Paper", above.name ≠ "Invoice" := by
    rw [ancestry]
    decide
  have inherited : (papers.fieldsOf "Paper").entries =
      [("number", .single (.named "Long")), ("issuer", .single (.named "String"))] := by
    change (papers.model.effectiveFields FieldDecl.isPersistent "Paper").map _ = _
    rw [Model.effectiveFields, ancestry]
    rfl
  obtain ⟨own, firsts, entries⟩ := (fields_closest_wins papers).1.inherits "Invoice" invoice
    "Paper" rfl rfl (by decide) acyclic
  refine ⟨⟨rfl, rfl, by decide, acyclic⟩, ?_⟩
  rw [entries, inherited, firsts.unique (Model.firstOfEach_closest invoice.fields)]
  decide

end SchemaProjection.Classifier
