import SchemaProjection.Model.Bundle
import SchemaProjection.Proofs.Pieces
import SchemaProjection.Proofs.TreeWalk

/-!
# Names of files

The last part of a path is the name of the file that it leads to, whatever directory the path
begins with, and its extension is what follows the last dot. A name that is nothing but a dot and
an extension has none (`extension?_eq_some_iff`).
-/
namespace SchemaProjection

/-- A name has an extension exactly when something and a dot stand before it. -/
theorem extension?_eq_some_iff {name extension : String}
    (undotted : Text.pathSeparator ∉ extension.toList) :
    extension? name = some extension ↔ ∃ stem, stem ≠ "" ∧ name = stem ++ "." ++ extension := by
  have segments : (Text.pieces (· == '.') name.toList).map String.ofList = Text.segments name := rfl
  rw [extension?, segments]
  constructor
  · intro found
    split at found
    case h_4 many single bare =>
      obtain ⟨front, divided⟩ := List.getLast?_eq_some_iff.mp found
      have before : front ≠ [] := by
        rintro rfl
        exact single _ divided
      obtain ⟨stem, back, rfl, stems, last⟩ :=
        Text.exists_of_segments_eq_append divided before (List.cons_ne_nil _ _)
      rw [Text.eq_of_segments_eq_singleton last]
      refine ⟨stem, ?_, rfl⟩
      rintro rfl
      exact bare _ (by rw [divided, ← stems]; rfl)
    all_goals cases found
  · rintro ⟨stem, filled, rfl⟩
    rw [Text.segments_append, Text.segments_of_undotted undotted, List.getLast?_concat]
    split
    case h_1 none => exact absurd none (by simp)
    case h_2 single =>
      exact absurd (List.append_eq_singleton_iff.mp single) (by simp [Text.segments_ne_nil])
    case h_3 bare =>
      have divided : Text.segments stem ++ [extension] = [""] ++ [_] := bare
      obtain ⟨stems, -⟩ := List.append_inj' divided rfl
      exact absurd (Text.eq_of_segments_eq_singleton stems) filled
    case h_4 => rfl

namespace FileTree

/-- The parts of a path that goes on behind a slash. -/
theorem parts_append (front back : String) :
    parts (front ++ "/" ++ back) = parts front ++ parts back := by
  have text : (front ++ "/" ++ back).toList = front.toList ++ '/' :: back.toList := by
    simp
  rw [parts, text, Text.pieces_append (by decide), List.map_append]
  rfl

/-- A path has at least one part. -/
theorem parts_ne_nil (path : String) : parts path ≠ [] := by
  rw [parts, ne_eq, List.map_eq_nil_iff]
  exact Text.pieces_ne_nil _ _

/-- A name is its only part. -/
theorem parts_of_isName {name : String} (named : IsName name) : parts name = [name] := by
  have unseparated : ∀ c ∈ name.toList, (c == '/') = false := fun c held =>
    beq_false_of_ne fun same => named.2 (same ▸ held)
  rw [parts, Text.pieces_of_unseparated unseparated, List.map_singleton, String.ofList_toList]

/-- The parts of a path that is made of names are the names. -/
theorem parts_joined {names : List String} (nonempty : names ≠ [])
    (named : ∀ name ∈ names, IsName name) : parts (Text.joined "/" names) = names := by
  induction names with
  | nil => exact absurd rfl nonempty
  | cons name rest ih =>
    have first := parts_of_isName (named name List.mem_cons_self)
    cases rest with
    | nil => rw [Text.joined, String.intercalate_singleton, first]
    | cons second rest =>
      have further := ih (List.cons_ne_nil _ _) fun other held =>
        named other (List.mem_cons_of_mem _ held)
      rw [Text.joined] at further ⊢
      rw [String.intercalate_cons_cons, parts_append, first, further, List.singleton_append]

/-- A path below a directory ends like the path inside the directory. -/
theorem getLast?_parts_pathBelow (directory : String) {relative : String} (inside : relative ≠ "") :
    (parts (pathBelow directory relative)).getLast? = (parts relative).getLast? := by
  have behind (front : String) :
      (parts (front ++ "/" ++ relative)).getLast? = (parts relative).getLast? := by
    rw [parts_append, List.getLast?_append_of_ne_nil _ (parts_ne_nil relative)]
  rw [pathBelow, if_neg (by simpa using inside)]
  split
  case isTrue closed =>
    simp only [Bool.or_eq_true, String.isEmpty_iff, decide_eq_true_eq] at closed
    obtain rfl | slash := closed
    · rw [String.empty_append]
    · obtain ⟨front, divided⟩ := List.getLast?_eq_some_iff.mp slash
      obtain rfl : directory = String.ofList front ++ "/" :=
        String.toList_injective (by simpa using divided)
      exact behind _
  case isFalse => exact behind directory

end FileTree

end SchemaProjection
