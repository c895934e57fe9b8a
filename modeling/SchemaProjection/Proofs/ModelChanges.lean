import SchemaProjection.Proofs.Inheritance
import SchemaProjection.Proofs.Insertion

/-!
# Models under changes

A model is changed by inserting types and by extending it with documents, and a change that fails
does not keep later ones from being tried. Every change offers types in order and adds those before
the first whose name is taken, be it by the model or within the change itself (`Change.Adds`), so
after any changes the types stand in the order in which they were added, each under its own name
and no name twice (`applyAll_keepsNames`). A document adds the same as its parts one after the
other, as long as the first of them does not fail.
-/
namespace SchemaProjection.Model

/-- A change of a model. -/
inductive Change where
  /-- A type is inserted. -/
  | insert (decl : TypeDecl)
  /-- The model is extended by a document. -/
  | extend (document : Document)

/-- The types that a change offers, in order. -/
def Change.offered : Change → List TypeDecl
  | .insert decl => [decl]
  | .extend document => document.types

/-- Make a change: the model after it, and the name for which it failed if it did. -/
def apply (model : Model) : Change → Model × Option Duplicate
  | .insert decl =>
    match model.insert decl with
    | .ok larger => (larger, none)
    | .error duplicate => (model, some duplicate)
  | .extend document => model.extend document

/-- Make changes one after the other, whatever became of those before: the model after them, and
for each the name for which it failed if it did. -/
def applyAll (model : Model) : List Change → Model × List (Option Duplicate)
  | [] => (model, [])
  | change :: rest =>
    let first := model.apply change
    let after := first.1.applyAll rest
    (after.1, first.2 :: after.2)

/-- The names of types. -/
def namesOf (types : List TypeDecl) : List String := types.map TypeDecl.name

/-- The types that a change adds to held ones, and the name for which it fails if it does. -/
inductive Change.Adds (change : Change) (held : List TypeDecl) :
    List TypeDecl → Option Duplicate → Prop
  /-- All offered types are added if their names are new and distinct. -/
  | all (fresh : (namesOf held ++ namesOf change.offered).Nodup) :
    Adds change held change.offered none
  /-- The types before the first one whose name is held or offered before are added. -/
  | upTo {front back : List TypeDecl} {again : TypeDecl}
    (divided : change.offered = front ++ again :: back)
    (fresh : (namesOf held ++ namesOf front).Nodup)
    (taken : again.name ∈ namesOf held ++ namesOf front) :
    Adds change held front (some ⟨again.name⟩)

/-- The types that result from held ones when each of some changes adds its own behind those that
were added before, and the name for which each change fails if it does. -/
inductive Builds : List TypeDecl → List Change → List TypeDecl → List (Option Duplicate) → Prop
  /-- Without a change the types are those that are held. -/
  | none (held : List TypeDecl) : Builds held [] held []
  /-- A change adds its types before later changes add theirs. -/
  | more {held added types : List TypeDecl} {change : Change} {rest : List Change}
    {refused : Option Duplicate} {outcomes : List (Option Duplicate)}
    (adds : change.Adds held added refused) (later : Builds (held ++ added) rest types outcomes) :
    Builds held (change :: rest) types (refused :: outcomes)

variable {model larger : Model} {change : Change}

/-- A change adds what it offers, as far as it can. -/
theorem apply_eq_insertAll (model : Model) (change : Change) :
    model.apply change = model.insertAll change.offered := by
  cases change with
  | insert decl =>
    rw [apply, Change.offered, insertAll]
    cases model.insert decl <;> rfl
  | extend document => rfl

/-- What a change comes to is what it adds, and nothing else of the model changes. -/
theorem apply_eq_iff {refused : Option Duplicate} :
    model.apply change = (larger, refused) ↔
      ∃ added, change.Adds model.types added refused ∧ larger.types = model.types ++ added ∧
        larger.checksum = model.checksum := by
  rw [apply_eq_insertAll]
  constructor
  · intro made
    cases refused with
    | none =>
      obtain ⟨fresh, types, checksum⟩ := insertAll_eq_none_iff.mp made
      exact ⟨change.offered, .all fresh, types, checksum⟩
    | some duplicate =>
      obtain ⟨before, again, after, divided, fresh, taken, rfl, types, checksum⟩ :=
        insertAll_eq_some_iff.mp made
      exact ⟨before, .upTo divided fresh taken, types, checksum⟩
  · rintro ⟨added, adds, types, checksum⟩
    cases adds with
    | all fresh => exact insertAll_eq_none_iff.mpr ⟨fresh, types, checksum⟩
    | upTo divided fresh taken =>
      exact insertAll_eq_some_iff.mpr ⟨_, _, _, divided, fresh, taken, rfl, types, checksum⟩

/-- Every change comes to something. -/
theorem exists_adds (model : Model) (change : Change) :
    ∃ added, change.Adds model.types added (model.apply change).2 ∧
      (model.apply change).1.types = model.types ++ added ∧
        (model.apply change).1.checksum = model.checksum :=
  apply_eq_iff.mp rfl

/-- Types of distinct names keep distinct names under a change. -/
theorem Change.Adds.nodup {held added : List TypeDecl} {refused : Option Duplicate}
    (adds : change.Adds held added refused) : (namesOf (held ++ added)).Nodup := by
  rw [namesOf, List.map_append]
  cases adds with
  | all fresh => exact fresh
  | upTo _ fresh _ => exact fresh

/-- What can be added is added. -/
theorem Change.Adds.exists_apply {added : List TypeDecl} {refused : Option Duplicate}
    (adds : change.Adds model.types added refused) :
    ∃ larger, model.apply change = (larger, refused) ∧ larger.types = model.types ++ added ∧
      larger.checksum = model.checksum := by
  let larger : Model := ⟨model.types ++ added, adds.nodup, model.checksum⟩
  exact ⟨larger, apply_eq_iff.mpr ⟨added, adds, rfl, rfl⟩, rfl, rfl⟩

/-- The types after changes are built by the changes. -/
theorem applyAll_builds (model : Model) (changes : List Change) :
    Builds model.types changes (model.applyAll changes).1.types (model.applyAll changes).2 := by
  induction changes generalizing model with
  | nil => exact .none model.types
  | cons change rest ih =>
    obtain ⟨added, adds, types, -⟩ := exists_adds model change
    have later := ih (model.apply change).1
    rw [types] at later
    exact .more adds later

/-- What changes build is what is left after making them. -/
theorem Builds.eq_applyAll {types : List TypeDecl} {changes : List Change}
    {outcomes : List (Option Duplicate)} (builds : Builds model.types changes types outcomes) :
    (model.applyAll changes).1.types = types ∧ (model.applyAll changes).2 = outcomes := by
  induction changes generalizing model outcomes with
  | nil =>
    cases builds
    exact ⟨rfl, rfl⟩
  | cons change rest ih =>
    cases builds with
    | more adds later =>
      obtain ⟨larger, made, held, -⟩ := adds.exists_apply
      rw [← held] at later
      obtain ⟨same, rfl⟩ := ih later
      rw [applyAll, made]
      exact ⟨same, rfl⟩

/-- Changes leave the checksum as it is. -/
theorem applyAll_checksum (model : Model) (changes : List Change) :
    (model.applyAll changes).1.checksum = model.checksum := by
  induction changes generalizing model with
  | nil => rfl
  | cons change rest ih =>
    obtain ⟨-, -, -, checksum⟩ := exists_adds model change
    exact (ih (model.apply change).1).trans checksum

/-- Types of distinct names keep distinct names under changes. -/
theorem Builds.nodup {held types : List TypeDecl} {changes : List Change}
    {outcomes : List (Option Duplicate)} (builds : Builds held changes types outcomes)
    (distinct : (namesOf held).Nodup) : (namesOf types).Nodup := by
  induction builds with
  | none held => exact distinct
  | more adds _ ih => exact ih adds.nodup

/-- Held types stay in front of those that changes add. -/
theorem Builds.held_first {held types : List TypeDecl} {changes : List Change}
    {outcomes : List (Option Duplicate)} (builds : Builds held changes types outcomes) :
    held <+: types := by
  induction builds with
  | none held => exact List.prefix_rfl
  | more _ _ ih => exact (List.prefix_append _ _).trans ih

/-- Changes are made one part after the other. -/
theorem applyAll_append (model : Model) (earlier later : List Change) :
    (model.applyAll (earlier ++ later)).1 = ((model.applyAll earlier).1.applyAll later).1 := by
  induction earlier generalizing model with
  | nil => rfl
  | cons change rest ih => exact ih (model.apply change).1

/-- Names are new to a model and distinct unless one of them is held or stands twice. -/
theorem nodup_names_append_iff (model : Model) (decls : List TypeDecl) :
    (namesOf model.types ++ namesOf decls).Nodup ↔
      (∀ decl ∈ decls, decl.name ∉ namesOf model.types) ∧ (namesOf decls).Nodup := by
  rw [List.nodup_append_comm, List.nodup_append', List.disjoint_left]
  constructor
  · rintro ⟨distinct, -, apart⟩
    exact ⟨fun decl listed => apart (List.mem_map_of_mem listed), distinct⟩
  · rintro ⟨apart, distinct⟩
    refine ⟨distinct, model.unique, ?_⟩
    intro name listed
    obtain ⟨decl, offered, rfl⟩ := List.mem_map.mp listed
    exact apart decl offered

/-- A change that does not fail may be joined with one that follows it. -/
theorem insertAll_append {decls : List TypeDecl} (model : Model) (others : List TypeDecl)
    (taken : (model.insertAll decls).2 = none) :
    model.insertAll (decls ++ others) = (model.insertAll decls).1.insertAll others := by
  induction decls generalizing model with
  | nil => rfl
  | cons decl rest ih =>
    rw [List.cons_append, insertAll, insertAll]
    rw [insertAll] at taken
    cases inserted : model.insert decl with
    | error duplicate => simp [inserted] at taken
    | ok larger =>
      rw [inserted] at taken
      exact ih larger taken

/-- How a model that changes have led to answers for its names. -/
structure KeepsNames (model : Model) : Prop where
  /-- Each type is found under its own name, and nothing else is. -/
  keyed : ∀ name decl, model.lookup name = some decl ↔ decl ∈ model.types ∧ decl.name = name
  /-- A type of a new name is added behind the others. -/
  inserted : ∀ decl, decl.name ∉ namesOf model.types →
    ∃ larger, model.apply (.insert decl) = (larger, none) ∧
      larger.types = model.types ++ [decl] ∧ larger.checksum = model.checksum
  /-- A type of a held name is refused for this name, and nothing is changed. -/
  refused : ∀ decl, decl.name ∈ namesOf model.types →
    model.apply (.insert decl) = (model, some ⟨decl.name⟩)
  /-- A document fails exactly if it has a held name or one name twice. -/
  fails : ∀ document, (model.apply (.extend document)).2 ≠ none ↔
    (∃ decl ∈ document.types, decl.name ∈ namesOf model.types) ∨ ¬(namesOf document.types).Nodup
  /-- A document that does not fail is added as a whole. -/
  extended : ∀ document, (model.apply (.extend document)).2 = none →
    (model.apply (.extend document)).1.types = model.types ++ document.types
  /-- A document that fails does so for the first name that is held or stands before it in the
  document, and exactly the types before it are added. -/
  stops : ∀ document before again after, document.types = before ++ again :: after →
    (∀ decl ∈ before, decl.name ∉ namesOf model.types) → (namesOf before).Nodup →
      again.name ∈ namesOf model.types ∨ again.name ∈ namesOf before →
        ∃ larger, model.apply (.extend document) = (larger, some ⟨again.name⟩) ∧
          larger.types = model.types ++ before ∧ larger.checksum = model.checksum
  /-- A document behind one that does not fail may be joined with it. -/
  joined : ∀ first second : Document, (model.apply (.extend first)).2 = none →
    (model.apply (.extend first)).1.apply (.extend second) =
      model.apply (.extend ⟨first.types ++ second.types⟩)

/-- A document fails exactly if one of its names is held or stands twice. -/
theorem extend_fails_iff (model : Model) (document : Document) :
    (model.apply (.extend document)).2 ≠ none ↔
      (∃ decl ∈ document.types, decl.name ∈ namesOf model.types) ∨
        ¬(namesOf document.types).Nodup := by
  have succeeds : (model.apply (.extend document)).2 = none ↔
      (namesOf model.types ++ namesOf document.types).Nodup := by
    obtain ⟨added, adds, -⟩ := exists_adds model (.extend document)
    constructor
    · intro unfailing
      rw [unfailing] at adds
      cases adds with
      | all fresh => exact fresh
    · intro fresh
      cases outcome : (model.apply (.extend document)).2 with
      | none => rfl
      | some duplicate =>
        rw [outcome] at adds
        cases adds with
        | @upTo front back again divided _ taken =>
          have offered : document.types = added ++ again :: back := divided
          have apart : (namesOf model.types ++ namesOf added ++
              again.name :: namesOf back).Nodup := by
            rw [offered] at fresh
            simpa [namesOf] using fresh
          exact absurd List.mem_cons_self ((List.nodup_append'.mp apart).2.2 taken)
  rw [ne_eq, succeeds, nodup_names_append_iff]
  by_cases distinct : (namesOf document.types).Nodup <;> simp [distinct]

/-- Every model keeps the names of its types apart. -/
theorem keepsNames (model : Model) : model.KeepsNames where
  keyed name decl := lookup_eq_some_iff
  inserted decl fresh := by
    have adds : (Change.insert decl).Adds model.types [decl] none :=
      .all ((nodup_names_append_iff model [decl]).mpr
        ⟨List.forall_mem_singleton.mpr fresh, List.nodup_singleton _⟩)
    exact adds.exists_apply
  refused decl held := by
    rw [apply, insert_eq_error_iff.mpr ⟨held, rfl⟩]
  fails := extend_fails_iff model
  extended document succeeds := by
    obtain ⟨added, adds, types, -⟩ := exists_adds model (.extend document)
    rw [succeeds] at adds
    cases adds with
    | all _ => exact types
  stops document before again after divided fresh distinct repeated := by
    have adds : (Change.extend document).Adds model.types before (some ⟨again.name⟩) :=
      .upTo divided ((nodup_names_append_iff model before).mpr ⟨fresh, distinct⟩)
        (List.mem_append.mpr repeated)
    exact adds.exists_apply
  joined first second succeeds := (insertAll_append model second.types succeeds).symm

/-- Whatever changes are made of a model, the one without types among them: the types that result
and the names for which changes fail are those that the changes build; no type loses its place to
one that is added later; each name stands once; the checksum is that of the model at the start; and
further changes of the model keep its names apart. -/
theorem applyAll_keepsNames (start : Model) (changes : List Change) :
    let model := (start.applyAll changes).1
    let outcomes := (start.applyAll changes).2
    (∀ built failed, Builds start.types changes built failed ↔
        model.types = built ∧ outcomes = failed) ∧
      (∀ earlier later, changes = earlier ++ later →
        (start.applyAll earlier).1.types <+: model.types) ∧
        (namesOf model.types).Nodup ∧ model.checksum = start.checksum ∧ model.KeepsNames := by
  intro model outcomes
  have builds : Builds start.types changes model.types outcomes := applyAll_builds start changes
  refine ⟨fun built failed => ⟨fun builds => builds.eq_applyAll, ?_⟩, ?_,
    builds.nodup start.unique, applyAll_checksum start changes, keepsNames model⟩
  · rintro ⟨rfl, rfl⟩
    exact builds
  · rintro earlier later rfl
    have further := (applyAll_builds (start.applyAll earlier).1 later).held_first
    rw [← applyAll_append] at further
    exact further

end SchemaProjection.Model
