import Mathlib.Data.List.Forall2
import SchemaProjection.Proofs.Pieces

/-!
# Underscores for other characters

Where a name has to be an identifier, an underscore is written for some of its characters. Two texts
become the same exactly when they agree but for places at which both have a character that is an
underscore or is replaced by one (`replaced_eq_iff`). Texts without such differences are told apart.
-/
namespace SchemaProjection.Text

variable {replaces : Char → Bool}

/-- A character, or an underscore for one that is replaced. -/
def underscoring (replaces : Char → Bool) (c : Char) : Char := if replaces c then '_' else c

/-- A text with an underscore for each character that is replaced. -/
def replaced (replaces : Char → Bool) (text : List Char) : List Char :=
  text.map (underscoring replaces)

/-- A character that is an underscore in the end. -/
def EndsUnderscore (replaces : Char → Bool) (c : Char) : Prop := c = '_' ∨ replaces c = true

instance (replaces : Char → Bool) : DecidablePred (EndsUnderscore replaces) := fun c =>
  inferInstanceAs (Decidable (c = '_' ∨ replaces c = true))

/-- Two texts agree but for places at which both have an underscore in the end. -/
def AgreeBut (replaces : Char → Bool) : List Char → List Char → Prop :=
  List.Forall₂ fun c d => c = d ∨ EndsUnderscore replaces c ∧ EndsUnderscore replaces d

/-- An underscore is written for an underscore and for what is replaced. -/
theorem underscoring_eq_underscore_iff {c : Char} :
    underscoring replaces c = '_' ↔ EndsUnderscore replaces c := by
  unfold underscoring EndsUnderscore
  by_cases held : replaces c = true <;> simp [held]

/-- A character that is not replaced stays as it is. -/
theorem underscoring_of_not {c : Char} (stays : ¬EndsUnderscore replaces c) :
    underscoring replaces c = c :=
  if_neg fun held => stays (.inr held)

/-- Two characters become the same when they are the same or both an underscore in the end. -/
theorem underscoring_eq_iff {c d : Char} :
    underscoring replaces c = underscoring replaces d ↔
      c = d ∨ EndsUnderscore replaces c ∧ EndsUnderscore replaces d := by
  by_cases first : EndsUnderscore replaces c
  · rw [underscoring_eq_underscore_iff.mpr first, eq_comm, underscoring_eq_underscore_iff]
    constructor
    · exact fun second => .inr ⟨first, second⟩
    · rintro (rfl | ⟨-, second⟩)
      · exact first
      · exact second
  · rw [underscoring_of_not first]
    constructor
    · intro same
      by_cases second : EndsUnderscore replaces d
      · exact absurd (.inl (same.trans (underscoring_eq_underscore_iff.mpr second))) first
      · exact .inl (same.trans (underscoring_of_not second))
    · rintro (rfl | ⟨absent, -⟩)
      · exact (underscoring_of_not first).symm
      · exact absurd absent first

/-- Two texts become the same exactly when they agree but for places at which both have an
underscore in the end. -/
theorem replaced_eq_iff {text other : List Char} :
    replaced replaces text = replaced replaces other ↔ AgreeBut replaces text other := by
  rw [replaced, replaced, ← List.forall₂_eq_eq_eq, List.forall₂_map_left_iff,
    List.forall₂_map_right_iff]
  simp only [underscoring_eq_iff, AgreeBut]

/-- Texts that agree but for underscores in the end are the same, if no two different characters in
them become underscores. -/
theorem AgreeBut.eq {text other : List Char} (agree : AgreeBut replaces text other)
    (one : ∀ c ∈ text, ∀ d ∈ other, EndsUnderscore replaces c → EndsUnderscore replaces d → c = d) :
    text = other := by
  induction agree with
  | nil => rfl
  | cons same rest ih =>
    have heads := same.elim id fun both =>
      one _ List.mem_cons_self _ List.mem_cons_self both.1 both.2
    have tails := ih fun c held d heldToo =>
      one c (List.mem_cons_of_mem _ held) d (List.mem_cons_of_mem _ heldToo)
    rw [heads, tails]

/-- A text in which nothing is replaced stays as it is. -/
theorem replaced_of_none {text : List Char} (kept : ∀ c ∈ text, replaces c = false) :
    replaced replaces text = text := by
  conv_rhs => rw [← List.map_id text]
  apply List.map_congr_left
  intro c held
  exact if_neg (by simp [kept c held])

end SchemaProjection.Text
