import Mathlib.Data.List.Basic
import SchemaProjection.Text.Similarity

/-!
# Scores

Names are compared with a word one after the other, and the suggestion is the last of those with the
highest score. How a name is scored does not matter for that, so the suggestion is taken here by any
scorer (`suggestionBy`). The running one keeps a table from name to name; that is, the score of a
name depends on the names before it (`scoreAfter`).
-/
namespace SchemaProjection.Text

/-- The score of a name for a word, none if they have nothing in common. It may depend on the names
that were compared with the word before; a scorer that does not is a function of two texts. -/
abbrev Scorer := List String → String → String → Option Int

/-- The names that have a score, one compared after the other, the first of them after others. -/
def scores (score : Scorer) (word : String) (earlier : List String) :
    List String → List (String × Int)
  | [] => []
  | name :: rest =>
    ((score earlier name word).map (name, ·)).toList ++ scores score word (earlier ++ [name]) rest

/-- The name that a word may have been meant for, none for the empty word. -/
def suggestionBy (score : Scorer) (names : List String) (word : String) : Option String :=
  if word.isEmpty then none else (lastBest (scores score word [] names)).map (·.1)

/-- The table that comparing names with a word leaves. -/
def tableAfter (word : String) (earlier : List String) : ScoreTable :=
  earlier.foldl (fun table name => (similarity table word.toList name.toList).2) #[]

/-- The score of a name by the table that the names before it leave. -/
def scoreAfter : Scorer := fun earlier name word =>
  (similarity (tableAfter word earlier) word.toList name.toList).1

/-- A scored name is the last of the best of a list. -/
def IsLastBest (scored : List (String × Int)) (best : String × Int) : Prop :=
  ∃ before behind, scored = before ++ best :: behind ∧
    (∀ other ∈ before, other.2 ≤ best.2) ∧ ∀ other ∈ behind, other.2 < best.2

/-- The running comparison scores names by the tables that they leave. -/
theorem similarities_eq_scores (word : String) (earlier names : List String) :
    similarities (tableAfter word earlier) word.toList names =
      scores scoreAfter word earlier names := by
  induction names generalizing earlier with
  | nil => rfl
  | cons name rest ih =>
    have left : (similarity (tableAfter word earlier) word.toList name.toList).2 =
        tableAfter word (earlier ++ [name]) := by
      rw [tableAfter, tableAfter, List.foldl_append]
      rfl
    rw [similarities, scores, scoreAfter]
    dsimp only
    rw [left, ih]
    cases (similarity (tableAfter word earlier) word.toList name.toList).1 <;> rfl

/-- The running suggestion is that by the running scores. -/
theorem suggestion?_eq (names : List String) (word : String) :
    suggestion? names word = suggestionBy scoreAfter names word := by
  rw [suggestion?, suggestionBy, ← similarities_eq_scores]
  rfl

/-- The last of the best is one of the list. -/
theorem IsLastBest.mem {scored : List (String × Int)} {best : String × Int}
    (isBest : IsLastBest scored best) : best ∈ scored := by
  obtain ⟨before, behind, rfl, -⟩ := isBest
  exact List.mem_append_right _ List.mem_cons_self

/-- The last of the best bounds all of the list. -/
theorem IsLastBest.le {scored : List (String × Int)} {best other : String × Int}
    (isBest : IsLastBest scored best) (listed : other ∈ scored) : other.2 ≤ best.2 := by
  obtain ⟨before, behind, rfl, least, less⟩ := isBest
  rcases List.mem_append.mp listed with front | back
  · exact least other front
  · rcases List.mem_cons.mp back with rfl | back
    · exact Int.le_refl _
    · exact Int.le_of_lt (less other back)

/-- A list of scored names has no best one exactly when it is empty. -/
theorem lastBest_eq_none_iff {scored : List (String × Int)} :
    lastBest scored = none ↔ scored = [] := by
  cases scored with
  | nil => simp [lastBest]
  | cons first rest =>
    rw [lastBest]
    cases lastBest rest with
    | none => simp
    | some other =>
      dsimp only
      split <;> simp

/-- What is found is the last of the best. -/
theorem isLastBest_of_lastBest {scored : List (String × Int)} {best : String × Int}
    (found : lastBest scored = some best) : IsLastBest scored best := by
  induction scored generalizing best with
  | nil => cases found
  | cons first rest ih =>
    rw [lastBest] at found
    cases later : lastBest rest with
    | none =>
      simp only [later, Option.some.injEq] at found
      obtain rfl := lastBest_eq_none_iff.mp later
      exact ⟨[], [], by rw [← found]; rfl, by simp, by simp⟩
    | some other =>
      have behind : IsLastBest rest other := ih later
      simp only [later] at found
      split at found <;> cases found
      next least =>
        obtain ⟨before, behind, rfl, others, less⟩ := behind
        exact ⟨first :: before, behind, rfl, List.forall_mem_cons.mpr ⟨least, others⟩, less⟩
      next less =>
        exact ⟨[], rest, rfl, by simp, fun other listed =>
          Int.lt_of_le_of_lt (behind.le listed) (Int.not_le.mp less)⟩

/-- The scored names are among those that were compared. -/
theorem mem_of_mem_scores {score : Scorer} {word : String} {earlier names : List String}
    {scored : String × Int} (listed : scored ∈ scores score word earlier names) :
    scored.1 ∈ names := by
  induction names generalizing earlier with
  | nil => cases listed
  | cons name rest ih =>
    rcases List.mem_append.mp listed with here | later
    · obtain ⟨value, -, rfl⟩ := Option.map_eq_some_iff.mp (Option.mem_toList.mp here)
      exact List.mem_cons_self
    · exact List.mem_cons_of_mem name (ih later)

/-- A name that is suggested is the last of the best. -/
theorem exists_isLastBest_of_suggestionBy {score : Scorer} {names : List String}
    {word name : String} (suggested : suggestionBy score names word = some name) :
    ∃ best, IsLastBest (scores score word [] names) (name, best) := by
  rw [suggestionBy, Option.ite_none_left_eq_some] at suggested
  obtain ⟨best, found, rfl⟩ := Option.map_eq_some_iff.mp suggested.2
  exact ⟨best.2, isLastBest_of_lastBest found⟩

/-- A name that is suggested is one of the names that were compared. -/
theorem mem_of_suggestion {names : List String} {word name : String}
    (suggested : suggestion? names word = some name) : name ∈ names := by
  rw [suggestion?_eq] at suggested
  obtain ⟨best, isBest⟩ := exists_isLastBest_of_suggestionBy suggested
  exact mem_of_mem_scores isBest.mem

end SchemaProjection.Text
