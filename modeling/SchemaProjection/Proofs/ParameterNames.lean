import Mathlib.Data.List.Nodup
import SchemaProjection.Proofs.PathComposition
import SchemaProjection.Proofs.Replacement
import SchemaProjection.Proofs.ViewCompilation

/-!
# Names of parameters

The parameters of a requested method are named after the paths that they come from, each after a
part of its path: the last segment, or all of it where another path ends in the same segment. These
parts tell the paths apart (`namingPart_inj`), but the names do not, as an underscore is written for
a dot and may as well stand in a segment. So different paths have different names exactly when no
two of their parts agree but for dots and underscores (`parameterNames_nodup_iff`), which is so
where no path has an underscore.
-/
namespace SchemaProjection

namespace Text

/-- A path with underscores for its dots. -/
def underscored (path : String) : String := joined "_" (segments path)

/-- The characters of a path with underscores are those of the path, with an underscore for each
dot. -/
theorem toList_underscored (path : String) :
    (underscored path).toList = replaced (· == pathSeparator) path.toList := by
  rw [underscored, joined, String.toList_intercalate, map_toList_segments]
  exact intercalate_pieces _ '_' _

/-- Two paths become the same exactly when they agree but for dots and underscores. -/
theorem underscored_eq_iff {path other : String} :
    underscored path = underscored other ↔
      AgreeBut (· == pathSeparator) path.toList other.toList := by
  rw [← replaced_eq_iff, ← toList_underscored, ← toList_underscored, String.toList_inj]

/-- A last segment has no dots to replace. -/
theorem underscored_lastSegment (path : String) :
    underscored (lastSegment path) = lastSegment path := by
  apply String.toList_injective
  rw [toList_underscored]
  apply replaced_of_none
  intro c held
  exact beq_false_of_ne (mem_of_mem_lastSegment held).2

/-- Paths without underscores that agree but for dots are the same. -/
theorem AgreeBut.eq_of_plain {path other : String}
    (agree : AgreeBut (· == pathSeparator) path.toList other.toList) (plain : '_' ∉ path.toList)
    (plainToo : '_' ∉ other.toList) : path = other := by
  apply String.toList_injective
  apply agree.eq
  rintro c held d heldToo (rfl | dot) (rfl | dotToo)
  · rfl
  · exact absurd held plain
  · exact absurd heldToo plainToo
  · rw [beq_iff_eq.mp dot, beq_iff_eq.mp dotToo]

end Text

/-- One of the paths, standing apart from a given one, ends in the same segment. -/
def SharesEnd (paths : List String) (path : String) : Prop :=
  ∃ other ∈ paths, other ≠ path ∧ Text.lastSegment other = Text.lastSegment path

instance (paths : List String) : DecidablePred (SharesEnd paths) := fun path =>
  inferInstanceAs (Decidable
    (∃ other ∈ paths, other ≠ path ∧ Text.lastSegment other = Text.lastSegment path))

/-- What one of some paths is named after. -/
def namingPart (paths : List String) (path : String) : String :=
  if SharesEnd paths path then path else Text.lastSegment path

variable {paths : List String}

/-- Different paths are named after different parts. -/
theorem namingPart_inj {path other : String} (listed : path ∈ paths) (listedToo : other ∈ paths)
    (same : namingPart paths path = namingPart paths other) : path = other := by
  by_contra differ
  have shared {whole part : String} (held : whole ∈ paths) (distinct : whole ≠ part)
      (ends : whole = Text.lastSegment part) : SharesEnd paths part := by
    have undotted : Text.pathSeparator ∉ whole.toList := fun dot =>
      (Text.mem_of_mem_lastSegment (ends ▸ dot)).2 rfl
    have own : Text.lastSegment whole = whole :=
      Text.lastSegment_of_single (Text.segments_of_undotted undotted)
    exact ⟨whole, held, distinct, own.trans ends⟩
  unfold namingPart at same
  by_cases shares : SharesEnd paths path
  · by_cases sharesToo : SharesEnd paths other
    · rw [if_pos shares, if_pos sharesToo] at same
      exact differ same
    · rw [if_pos shares, if_neg sharesToo] at same
      exact sharesToo (shared listed differ same)
  · by_cases sharesToo : SharesEnd paths other
    · rw [if_neg shares, if_pos sharesToo] at same
      exact shares (shared listedToo (Ne.symm differ) same.symm)
    · rw [if_neg shares, if_neg sharesToo] at same
      exact shares ⟨other, listedToo, Ne.symm differ, same.symm⟩

/-- The part that a path is named after has only characters of the path. -/
theorem mem_of_mem_namingPart {path : String} {c : Char}
    (held : c ∈ (namingPart paths path).toList) : c ∈ path.toList := by
  unfold namingPart at held
  split at held
  · exact held
  · exact (Text.mem_of_mem_lastSegment held).1

/-- In a list without repetition one member is not alone exactly when there is another one. -/
theorem one_lt_length_iff {α : Type} [DecidableEq α] {members : List α} {member : α}
    (distinct : members.Nodup) (held : member ∈ members) :
    1 < members.length ↔ ∃ other ∈ members, other ≠ member := by
  have others : (∃ other ∈ members, other ≠ member) ↔ 0 < (members.erase member).length := by
    rw [List.length_pos_iff_exists_mem]
    refine exists_congr fun other => ?_
    rw [distinct.mem_erase_iff, and_comm]
  rw [others, List.length_erase_of_mem held]
  omega

/-- Different paths are named after their parts, with underscores for the dots. -/
theorem parameterNames_eq (distinct : paths.Nodup) :
    parameterNames paths = paths.map fun path => Text.underscored (namingPart paths path) := by
  rw [parameterNames]
  apply List.map_congr_left
  intro path listed
  have held : path ∈ paths.filter fun other =>
      Text.lastSegment other == Text.lastSegment path := by simp [listed]
  have shares : 1 < (paths.filter fun other =>
      Text.lastSegment other == Text.lastSegment path).length ↔ SharesEnd paths path := by
    rw [one_lt_length_iff (distinct.filter _) held]
    simp only [List.mem_filter, beq_iff_eq, SharesEnd]
    exact exists_congr fun other => by tauto
  rw [namingPart, apply_ite Text.underscored, Text.underscored_lastSegment]
  exact if_congr shares rfl rfl

/-- Different paths give different names to the parameters of a requested method exactly when no two
of the parts that they are named after agree but for dots and underscores. So they do where no path
has an underscore. -/
theorem parameterNames_nodup_iff (distinct : paths.Nodup) :
    ((parameterNames paths).Nodup ↔
        ∀ path ∈ paths, ∀ other ∈ paths,
          Text.AgreeBut (· == Text.pathSeparator) (namingPart paths path).toList
            (namingPart paths other).toList → path = other) ∧
      ((∀ path ∈ paths, '_' ∉ path.toList) → (parameterNames paths).Nodup) ∧
      ∀ (compiler : ViewCompiler) (view source : String) (field : FieldDecl)
        (computation : Computation) (fields : List Field), computation.dependencies = paths →
          compiler.Leads source paths fields →
            (compiler.request view field computation fields).parameters.map Prod.snd =
              parameterNames paths := by
  have exact_iff : (parameterNames paths).Nodup ↔
      ∀ path ∈ paths, ∀ other ∈ paths,
        Text.AgreeBut (· == Text.pathSeparator) (namingPart paths path).toList
          (namingPart paths other).toList → path = other := by
    rw [parameterNames_eq distinct, List.nodup_map_iff_inj_on distinct]
    simp only [Text.underscored_eq_iff]
  refine ⟨exact_iff, fun plain => exact_iff.mpr ?_, ?_⟩
  · intro path listed other listedToo agree
    exact namingPart_inj listed listedToo (agree.eq_of_plain
      (fun held => plain path listed (mem_of_mem_namingPart held))
      (fun held => plain other listedToo (mem_of_mem_namingPart held)))
  · rintro compiler view source field computation fields rfl leads
    change ((fields.map Field.declaredType).zip (parameterNames computation.dependencies)).map
      Prod.snd = _
    apply List.map_snd_zip
    simp [parameterNames, leads.length_eq]

namespace ViewCompiler

/-- A computed field that depends on some paths. -/
def label (paths : List String) : FieldDecl :=
  { Compilation.plainField "label" (.named "String") with computed := some ⟨paths, []⟩ }

/-- A card of a customer with a label that depends on some paths. -/
def customerCard (paths : List String) : TypeDecl :=
  { Compilation.plainType "CustomerCard" with
    projection := some ⟨"Customer", []⟩
    fields := [label paths] }

/-- A value object. -/
def address : TypeDecl :=
  { Compilation.plainType "Address" with
    isEmbeddable := true
    fields := [Compilation.plainField "city" (.named "String")] }

/-- The compiler of the card of a customer: customers have two addresses, and a field whose name has
an underscore. -/
def cardCompiler (paths : List String) : ViewCompiler where
  classifier :=
    { model.types := [customerCard paths, address]
      model.unique := show ["CustomerCard", "Address"].Nodup by decide
      model.checksum := none
      extraScalars := [] }
  registry.entities := ⟨[("Customer", ⟨[("address", .single (.named "Address")),
    ("billing", .single (.named "Address")), ("address_city", .single (.named "String"))],
    by decide⟩)], by decide⟩
  registry.embeddables := ⟨[("Address", ⟨[("city", .single (.named "String"))], by decide⟩)],
    by decide⟩
  suggests := false
  methodLead := "get"

/-- The cities of both addresses have names of their own. -/
theorem cities_named_apart :
    ["address.city", "billing.city"].Nodup ∧
      (parameterNames ["address.city", "billing.city"]).Nodup ∧
      ((cardCompiler ["address.city", "billing.city"]).request "CustomerCard"
        (label ["address.city", "billing.city"]) ⟨["address.city", "billing.city"], []⟩
        [.single (.named "String"), .single (.named "String")]).parameters.map Prod.snd =
          ["address_city", "billing_city"] := by
  have distinct : ["address.city", "billing.city"].Nodup := by decide
  obtain ⟨-, plain, names⟩ := parameterNames_nodup_iff distinct
  refine ⟨distinct, plain (by decide), ?_⟩
  exact names _ "CustomerCard" "Customer" _ ⟨_, []⟩ _ rfl (.cons rfl (.cons rfl .nil))

/-- A field of a customer is named like the city of its address, so that the method which a label of
all three asks for has two parameters of one name. -/
theorem addressCity_named_twice :
    ["address.city", "billing.city", "address_city"].Nodup ∧
      ¬(parameterNames ["address.city", "billing.city", "address_city"]).Nodup ∧
      (cardCompiler ["address.city", "billing.city", "address_city"]).compile "CustomerCard"
          ⟨"Customer", []⟩ =
        .error [⟨"CustomerCard.label", .method (.noMatch "CustomerCard" "label"
          "String getLabel(String address_city, String billing_city, String address_city)"
          [] [])⟩] := by
  have fields : (cardCompiler ["address.city", "billing.city", "address_city"]).model.mappedFields
      "CustomerCard" = [label ["address.city", "billing.city", "address_city"]] := by
    rw [Model.mappedFields, Model.effectiveFields, Model.ancestry_of_parentless rfl rfl]
    rfl
  refine ⟨by decide, by decide, ?_⟩
  rw [compile, if_neg (by decide), fields]
  rfl

end ViewCompiler

end SchemaProjection
