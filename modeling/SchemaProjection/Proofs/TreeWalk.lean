import Mathlib.Data.List.Sort
import Mathlib.Data.String.Basic
import SchemaProjection.File.Tree
import SchemaProjection.Proofs.Table

/-!
# Walks over trees of files

A walk enters the entries of a directory in the order of their names and goes on below each. It
meets every file of the tree once, and the lists of names that lead to the files ascend in the
order of lists: by the first name that differs, and not as the paths that the names make up, for
a slash may come before or behind a character of another name (`FileTree.walk_ascends`). So what
is met depends on the files of the tree only, and not on how its directories list them
(`FileTree.walk_congr`).
-/
namespace SchemaProjection.FileTree

/-- A name for a file or a directory: it is not empty and holds no slash. -/
def IsName (name : String) : Prop := name ≠ "" ∧ '/' ∉ name.toList

/-- A tree as a file system holds it: the names in a directory are distinct. -/
inductive Proper : FileTree → Prop
  /-- A file is one. -/
  | file (content : List UInt8) : Proper (.file content)
  /-- A directory with distinct names is one. -/
  | directory {entries : List (String × FileTree)} (distinct : (entries.map Prod.fst).Nodup)
    (named : ∀ entry ∈ entries, IsName entry.1) (below : ∀ entry ∈ entries, Proper entry.2) :
    Proper (.directory entries)

/-- The walks of the entries of a directory. -/
theorem walkEach_eq (entries : List (String × FileTree)) :
    walkEach entries = entries.map fun entry => (entry.1, entry.2.walk) := by
  induction entries with
  | nil => rfl
  | cons entry rest ih => rw [walkEach, ih, List.map_cons]

/-- The files below a directory are those of its entries. -/
theorem mem_walk_directory_iff {entries : List (String × FileTree)} {names : List String}
    {content : List UInt8} :
    (names, content) ∈ (directory entries).walk ↔
      ∃ name tree rest, (name, tree) ∈ entries ∧ (rest, content) ∈ tree.walk ∧
        names = name :: rest := by
  simp only [walk, walkEach_eq, List.mem_flatMap, List.mem_mergeSort, List.mem_map, Prod.exists,
    Prod.mk.injEq]
  constructor
  · rintro ⟨_, _, ⟨name, tree, held, rfl, rfl⟩, rest, _, met, rfl, rfl⟩
    exact ⟨name, tree, rest, held, met, rfl⟩
  · rintro ⟨name, tree, rest, held, met, rfl⟩
    exact ⟨name, tree.walk, ⟨name, tree, held, rfl, rfl⟩, rest, content, met, rfl, rfl⟩

/-- A file is met exactly under the names that lead to it. -/
theorem mem_walk_iff {tree : FileTree} (proper : tree.Proper) {names : List String}
    {content : List UInt8} :
    (names, content) ∈ tree.walk ↔ tree.get? names = some (.file content) := by
  induction proper generalizing names with
  | file other =>
    cases names with
    | nil => simp [walk, get?, eq_comm]
    | cons name rest => simp [walk, get?]
  | @directory entries distinct named below ih =>
    rw [mem_walk_directory_iff]
    cases names with
    | nil => simp [get?]
    | cons name rest =>
      rw [get?]
      cases found : entries.lookup name with
      | none =>
        have absent (tree : FileTree) : (name, tree) ∉ entries := fun held =>
          Option.some_ne_none _ ((Entries.lookup_eq_some_iff distinct).mpr held ▸ found)
        simp [absent]
      | some tree =>
        have held := (Entries.lookup_eq_some_iff distinct).mp found
        dsimp only
        rw [← ih (name, tree) held]
        constructor
        · rintro ⟨other, inner, path, listed, met, same⟩
          obtain ⟨rfl, rfl⟩ := List.cons.inj same
          rw [← Entries.lookup_eq_some_iff distinct, found] at listed
          cases listed
          exact met
        · intro met
          exact ⟨name, tree, rest, held, met, rfl⟩

/-- The entries of a directory are entered in the order of their names. -/
theorem ranked_ascends {α : Type} {entries : List (String × α)}
    (distinct : (entries.map Prod.fst).Nodup) :
    (entries.mergeSort fun left right => left.1 ≤ right.1).Pairwise
      fun left right => left.1 < right.1 := by
  have ranked : (entries.mergeSort fun left right => left.1 ≤ right.1).Pairwise
      fun left right => left.1 ≤ right.1 :=
    (List.pairwise_mergeSort
      (fun first second third before behind => by
        simp only [decide_eq_true_eq] at before behind ⊢
        exact le_trans before behind)
      (fun first second => by simpa using le_total first.1 second.1) entries).imp
        fun before => by simpa using before
  have apart : (entries.mergeSort fun left right => left.1 ≤ right.1).Pairwise
      fun left right => left.1 ≠ right.1 := by
    rw [← List.pairwise_map (R := (· ≠ ·)) (f := Prod.fst)]
    exact ((List.mergeSort_perm entries _).map Prod.fst).nodup_iff.mpr distinct
  exact ranked.imp₂ (fun _ _ before differ => lt_of_le_of_ne before differ) apart

/-- The names that lead to the files ascend, so each file is met once. -/
theorem walk_ascends {tree : FileTree} (proper : tree.Proper) :
    tree.walk.Pairwise fun first second => first.1 < second.1 := by
  induction proper with
  | file content => exact List.pairwise_singleton _ _
  | @directory entries distinct named below ih =>
    have distinct : ((walkEach entries).map Prod.fst).Nodup := by
      simpa [walkEach_eq, Function.comp_def] using distinct
    -- Below one entry all lists begin with its name; between two entries their names decide.
    rw [walk, List.pairwise_flatMap]
    constructor
    · intro entry entered
      obtain ⟨⟨name, tree⟩, held, rfl⟩ : ∃ inner ∈ entries, (inner.1, inner.2.walk) = entry := by
        simpa [walkEach_eq] using entered
      exact List.pairwise_map.mpr <| (ih (name, tree) held).imp fun before =>
        List.cons_lt_cons_self.mpr before
    · refine (ranked_ascends distinct).imp fun before => ?_
      simp only [List.mem_map]
      rintro _ ⟨first, -, rfl⟩ _ ⟨second, -, rfl⟩
      exact List.cons_lt_cons_iff.mpr (.inl before)

/-- The order is not that of the paths: a file below a directory may come before a file whose path
comes first. -/
example : ["a", "z.json"] < ["a.json"] ∧ "a.json" < "a/z.json" := by
  decide

/-- Lists of files whose names ascend are the same when they hold the same files. -/
theorem eq_of_ascending {α : Type} {left right : List (List String × α)}
    (leftAscends : left.Pairwise fun first second => first.1 < second.1)
    (rightAscends : right.Pairwise fun first second => first.1 < second.1)
    (same : ∀ file, file ∈ left ↔ file ∈ right) : left = right := by
  have irrefl : Std.Irrefl fun first second : List String × α => first.1 < second.1 :=
    ⟨fun file => lt_irrefl file.1⟩
  have antisymm : Std.Antisymm fun first second : List String × α => first.1 < second.1 :=
    ⟨fun _ _ before behind => absurd before (lt_asymm behind)⟩
  exact leftAscends.eq_of_mem_iff rightAscends same

/-- Trees with the same files are walked alike, however their directories list them. -/
theorem walk_congr {left right : FileTree} (leftProper : left.Proper) (rightProper : right.Proper)
    (same : ∀ names content,
      left.get? names = some (.file content) ↔ right.get? names = some (.file content)) :
    left.walk = right.walk :=
  eq_of_ascending (walk_ascends leftProper) (walk_ascends rightProper) fun (names, content) => by
    rw [mem_walk_iff leftProper, mem_walk_iff rightProper, same]

end SchemaProjection.FileTree
