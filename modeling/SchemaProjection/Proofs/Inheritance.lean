import Mathlib.Data.List.Nodup
import SchemaProjection.Model.Ancestry

/-!
# Inherited fields

A field takes part in a type when it is the closest declaration of its name among those that
count, and nothing of a declaration reaches a type but through its ancestry. Two models in which
every name has declarations that are alike in some respect therefore have alike ancestries, as
long as that respect includes the names of the declarations and of their supertypes.
-/
namespace SchemaProjection.Model

/-- A type is found under its name, and nothing else is. -/
theorem lookup_eq_some_iff {model : Model} {name : String} {decl : TypeDecl} :
    model.lookup name = some decl ↔ decl ∈ model.types ∧ decl.name = name := by
  constructor
  · exact fun found => ⟨lookup_mem found, lookup_name found⟩
  · rintro ⟨declared, rfl⟩
    cases found : model.lookup decl.name with
    | none => simpa using List.find?_eq_none.mp found decl declared
    | some other =>
      rw [List.inj_on_of_nodup_map model.unique (lookup_mem found) declared (lookup_name found)]

/-- Declared types of one name are the same. -/
theorem eq_of_name_eq {model : Model} {first second : TypeDecl} (inFirst : first ∈ model.types)
    (inSecond : second ∈ model.types) (same : first.name = second.name) : first = second :=
  List.inj_on_of_nodup_map model.unique inFirst inSecond same

/-- The views are the declared types that project something. -/
theorem mem_views_iff {model : Model} {decl : TypeDecl} :
    decl ∈ model.views ↔
      decl ∈ model.types ∧ ∃ projection, decl.projection = some projection := by
  rw [views, List.mem_filter, TypeDecl.isView, Option.isSome_iff_exists]

/-- Of all declarations over an ancestry, a field is the first of its name that satisfies a
condition. -/
def IsClosest (model : Model) (holds : FieldDecl → Bool) (type : String) (field : FieldDecl) :
    Prop :=
  ((model.ancestry type).flatMap TypeDecl.fields).find?
    (fun other => holds other && other.name == field.name) = some field

/-- The closest fields are the first ones of their names. -/
theorem mem_closest_iff {fields : List FieldDecl} {field : FieldDecl} :
    field ∈ closest fields ↔ fields.find? (·.name == field.name) = some field := by
  induction fields with
  | nil => simp [closest]
  | cons first rest ih =>
    rw [closest, List.mem_cons, List.mem_filter, ih]
    by_cases same : first.name = field.name
    · rw [List.find?_cons_of_pos (by simpa using same)]
      simp [same, eq_comm]
    · have other : field ≠ first := fun equal => same (congrArg FieldDecl.name equal).symm
      rw [List.find?_cons_of_neg (by simpa using same)]
      simp [other, Ne.symm same]

/-- The effective fields of a type are the closest declarations that count. -/
theorem mem_effectiveFields_iff {model : Model} {holds : FieldDecl → Bool} {type : String}
    {field : FieldDecl} :
    field ∈ model.effectiveFields holds type ↔ model.IsClosest holds type field := by
  rw [effectiveFields, mem_closest_iff, ← List.filter_flatMap, List.find?_filter, IsClosest]
  simp only [Bool.decide_and, Bool.decide_eq_true]

/-- A name that is not declared has no chain. -/
theorem chain_of_absent {model : Model} {name : String} (met : List String)
    (absent : model.lookup name = none) : model.chain met name = [] := by
  rw [chain]
  split
  next => rfl
  next decl found => rw [absent] at found; cases found

/-- A declaration whose name has been met ends the chain. -/
theorem chain_of_met {model : Model} {met : List String} {name : String} {decl : TypeDecl}
    (found : model.lookup name = some decl) (known : decl.name ∈ met) :
    model.chain met name = [] := by
  rw [chain]
  split
  next => rfl
  next other same =>
    obtain rfl : other = decl := Option.some.inj (same.symm.trans found)
    rw [dif_pos known]

/-- A declaration that has not been met comes before the chain of its supertype. -/
theorem chain_of_fresh {model : Model} {met : List String} {name : String} {decl : TypeDecl}
    (found : model.lookup name = some decl) (fresh : decl.name ∉ met) :
    model.chain met name =
      decl :: decl.properParent.elim [] (model.chain (decl.name :: met)) := by
  rw [chain]
  split
  next absent => rw [found] at absent; cases absent
  next other same =>
    obtain rfl : other = decl := Option.some.inj (same.symm.trans found)
    rw [dif_neg fresh]
    cases other.properParent <;> rfl

/-- A type without a supertype is all of its ancestry. -/
theorem ancestry_of_parentless {model : Model} {name : String} {decl : TypeDecl}
    (found : model.lookup name = some decl) (parentless : decl.properParent = none) :
    model.ancestry name = [decl] := by
  rw [ancestry, chain_of_fresh found List.not_mem_nil, parentless]
  rfl

/-- Where one more name has been met, a chain ends before the type of that name. -/
theorem chain_of_one_more {model : Model} {met more : List String} {one : String}
    (oneMore : ∀ name, name ∈ more ↔ name = one ∨ name ∈ met) (name : String) :
    model.chain more name = (model.chain met name).takeWhile fun decl => decl.name != one := by
  induction met, name using chain.induct model generalizing more with
  | case1 met name absent =>
    rw [chain_of_absent more absent, chain_of_absent met absent]
    rfl
  | case2 met name decl found known =>
    have knownMore : decl.name ∈ more := (oneMore decl.name).mpr (.inr known)
    rw [chain_of_met found knownMore, chain_of_met found known]
    rfl
  | case3 met name decl found fresh fewer ih =>
    rw [chain_of_fresh found fresh]
    by_cases same : decl.name = one
    · have knownMore : decl.name ∈ more := (oneMore decl.name).mpr (.inl same)
      rw [chain_of_met found knownMore, List.takeWhile_cons_of_neg (by simp [same])]
    · have freshMore : decl.name ∉ more := fun known =>
        ((oneMore decl.name).mp known).elim same fresh
      rw [chain_of_fresh found freshMore, List.takeWhile_cons_of_pos (by simp [same])]
      cases parent : decl.properParent with
      | none => rfl
      | some parentName =>
        have oneMoreAbove : ∀ other,
            other ∈ decl.name :: more ↔ other = one ∨ other ∈ decl.name :: met := by
          intro other
          rw [List.mem_cons, List.mem_cons, oneMore]
          exact or_left_comm
        exact congrArg _ (ih parentName oneMoreAbove)

/-- A type inherits the ancestry of its supertype up to the type itself. -/
theorem ancestry_of_parent {model : Model} {name parent : String} {decl : TypeDecl}
    (found : model.lookup name = some decl) (proper : decl.properParent = some parent) :
    model.ancestry name =
      decl :: (model.ancestry parent).takeWhile fun above => above.name != name := by
  have only : ∀ other, other ∈ [decl.name] ↔ other = name ∨ other ∈ ([] : List String) := by
    simp [lookup_name found]
  rw [ancestry, chain_of_fresh found List.not_mem_nil, proper]
  exact congrArg (decl :: ·) (chain_of_one_more only parent)

/-- Everything in an ancestry is declared. -/
theorem mem_types_of_mem_ancestry {model : Model} {name : String} {decl : TypeDecl}
    (inherited : decl ∈ model.ancestry name) : decl ∈ model.types := by
  suffices chains : ∀ met name, decl ∈ model.chain met name → decl ∈ model.types from
    chains [] name inherited
  intro met name member
  induction met, name using chain.induct model with
  | case1 met name absent =>
    rw [chain_of_absent met absent] at member
    cases member
  | case2 met name first found known =>
    rw [chain_of_met found known] at member
    cases member
  | case3 met name first found fresh fewer ih =>
    rw [chain_of_fresh found fresh] at member
    rcases List.mem_cons.mp member with rfl | above
    · exact lookup_mem found
    · cases parent : first.properParent with
      | none => rw [parent] at above; cases above
      | some parentName => rw [parent] at above; exact ih parentName above

/-- Where every name has declarations that are alike, and alike declarations have the same name
and supertype, ancestries are alike. The parts that are compared may be taken differently in the
two models. -/
theorem ancestry_map_congr {β : Type} {left right : Model} (leftPart rightPart : TypeDecl → β)
    (determines : ∀ first second, leftPart first = rightPart second →
      first.name = second.name ∧ first.parent = second.parent)
    (alike : ∀ name, (left.lookup name).map leftPart = (right.lookup name).map rightPart)
    (name : String) : (left.ancestry name).map leftPart = (right.ancestry name).map rightPart := by
  suffices chains : ∀ met name,
      (left.chain met name).map leftPart = (right.chain met name).map rightPart from
    chains [] name
  intro met name
  induction met, name using chain.induct left with
  | case1 met name absent =>
    have absentRight : right.lookup name = none := by
      simpa [absent] using (alike name).symm
    rw [chain_of_absent met absent, chain_of_absent met absentRight]
    rfl
  | case2 met name decl found known =>
    obtain ⟨other, foundRight, same⟩ : ∃ other, right.lookup name = some other ∧
        rightPart other = leftPart decl := by
      simpa [found] using (alike name).symm
    have knownRight : other.name ∈ met := (determines decl other same.symm).1 ▸ known
    rw [chain_of_met found known, chain_of_met foundRight knownRight]
    rfl
  | case3 met name decl found fresh fewer ih =>
    obtain ⟨other, foundRight, same⟩ : ∃ other, right.lookup name = some other ∧
        rightPart other = leftPart decl := by
      simpa [found] using (alike name).symm
    obtain ⟨names, parents⟩ := determines decl other same.symm
    have proper : other.properParent = decl.properParent := by
      rw [TypeDecl.properParent, TypeDecl.properParent, parents]
    rw [chain_of_fresh found fresh, chain_of_fresh foundRight (names ▸ fresh), List.map_cons,
      List.map_cons, same, proper, ← names]
    cases decl.properParent with
    | none => rfl
    | some parent => exact congrArg _ (ih parent)

end SchemaProjection.Model
