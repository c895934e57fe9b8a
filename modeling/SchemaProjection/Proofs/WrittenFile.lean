import SchemaProjection.Proofs.Table
import SchemaProjection.File.Tree

/-!
# Written files

A path is followed through directories only, and a file is put where none stands. So every
directory that the path went through is still there when the file is written, the path leads to
it, and each other file is what it was (`FileTree.writes_of_write?`).
-/
namespace SchemaProjection

/-- What is put under a name is found under it, and the other names are not touched. -/
theorem Entries.lookup_put {α : Type} (name other : String) (value : α)
    (entries : List (String × α)) :
    (Entries.put name value entries).lookup other =
      if other = name then some value else entries.lookup other := by
  induction entries with
  | nil => rw [Entries.put, Entries.lookup_cons]
  | cons entry rest ih =>
    obtain ⟨held, old⟩ := entry
    by_cases here : held = name
    · rw [Entries.put, if_pos here, Entries.lookup_cons, Entries.lookup_cons]
      by_cases same : other = name <;> simp [same, here]
    · rw [Entries.put, if_neg here, Entries.lookup_cons, Entries.lookup_cons, ih]
      by_cases same : other = held <;> simp [same, here]

namespace FileTree

/-- Below a directory stands what stands below its entries. -/
theorem get?_directory_cons (entries : List (String × FileTree)) (name : String)
    (rest : List String) :
    (directory entries).get? (name :: rest) = (entries.lookup name).bind (get? · rest) := by
  rw [get?]
  cases entries.lookup name <;> rfl

/-- What stands at the end of two lists of names stands at the end of the second below the
first. -/
theorem get?_append (tree : FileTree) (front back : List String) :
    tree.get? (front ++ back) = (tree.get? front).bind (get? · back) := by
  induction front generalizing tree with
  | nil => rfl
  | cons name rest ih =>
    cases tree with
    | file content => rfl
    | directory entries =>
      rw [List.cons_append, get?_directory_cons, get?_directory_cons]
      cases entries.lookup name with
      | none => rfl
      | some inner => exact ih inner

/-- Below a place that is no directory stands nothing. -/
theorem get?_append_eq_none {tree : FileTree} {front : List String}
    (closed : ∀ entries, tree.get? front ≠ some (.directory entries)) (name : String)
    (rest : List String) : tree.get? (front ++ name :: rest) = none := by
  rw [get?_append]
  cases found : tree.get? front with
  | none => rfl
  | some inner =>
    cases inner with
    | file content => rfl
    | directory entries => exact absurd found (closed entries)

/-- What is put under names stands under them. -/
theorem get?_put_self (node : FileTree) (names : List String) (tree : FileTree) :
    (put node names tree).get? names = some node := by
  induction names generalizing tree with
  | nil => rfl
  | cons name rest ih =>
    cases tree with
    | file content =>
      rw [put, get?_directory_cons, Entries.lookup_cons, if_pos rfl]
      exact ih empty
    | directory entries =>
      rw [put, get?_directory_cons, Entries.lookup_put, if_pos rfl]
      exact ih _

/-- A directory is still there with its entries when something is put where none stands. -/
theorem directory_put (node : FileTree) {tree : FileTree} {names here : List String}
    {entries : List (String × FileTree)}
    (closed : ∀ entries, tree.get? names ≠ some (.directory entries))
    (found : tree.get? here = some (.directory entries)) :
    ∃ more, (put node names tree).get? here = some (.directory more) ∧
      ∀ name, (entries.lookup name).isSome = true → (more.lookup name).isSome = true := by
  induction names generalizing tree here with
  | nil =>
    cases tree with
    | directory held => exact absurd rfl (closed held)
    | file content => cases here <;> cases found
  | cons name rest ih =>
    cases tree with
    | file content => cases here <;> cases found
    | directory held =>
      cases here with
      | nil =>
        cases found
        refine ⟨_, rfl, fun other listed => ?_⟩
        rw [Entries.lookup_put]
        split
        · rfl
        · exact listed
      | cons first after =>
        rw [put, get?_directory_cons, Entries.lookup_put]
        rw [get?_directory_cons] at found
        split
        next same =>
          subst same
          cases inner : held.lookup first with
          | none => rw [inner] at found; cases found
          | some below =>
            rw [inner] at found
            refine ih (fun entries => ?_) found
            have := closed entries
            rwa [get?_directory_cons, inner] at this
        next => exact ⟨entries, found, fun _ listed => listed⟩

/-- Another file is what it was when a file is put into a directory, in place of none or of a
file. -/
theorem file_put_iff {tree : FileTree} {home other : List String} {name : String}
    {content bytes : List UInt8} {entries : List (String × FileTree)}
    (inside : tree.get? home = some (.directory entries))
    (closed : ∀ entries, tree.get? (home ++ [name]) ≠ some (.directory entries))
    (apart : other ≠ home ++ [name]) :
    (put (.file content) (home ++ [name]) tree).get? other = some (.file bytes) ↔
      tree.get? other = some (.file bytes) := by
  induction home generalizing tree other with
  | nil =>
    cases inside
    rw [List.nil_append, put, put]
    cases other with
    | nil => rw [get?, get?]; simp
    | cons first after =>
      rw [get?_directory_cons, get?_directory_cons, Entries.lookup_put]
      split
      next same =>
        subst same
        cases after with
        | nil => exact absurd rfl apart
        | cons second more =>
          have nothing := get?_append_eq_none closed second more
          rw [List.nil_append, List.singleton_append, get?_directory_cons] at nothing
          rw [nothing]
          exact ⟨nofun, nofun⟩
      next => exact Iff.rfl
  | cons first rest ih =>
    cases tree with
    | file content => cases inside
    | directory held =>
      rw [get?_directory_cons] at inside
      cases below : held.lookup first with
      | none => rw [below] at inside; cases inside
      | some inner =>
        rw [below] at inside
        rw [List.cons_append, put, below]
        cases other with
        | nil => rw [get?, get?]; simp
        | cons next after =>
          rw [get?_directory_cons, get?_directory_cons, Entries.lookup_put]
          split
          next same =>
            subst same
            rw [below]
            refine ih inside (fun entries => ?_) (fun same => apart (by rw [same]; rfl))
            have := closed entries
            rwa [List.cons_append, get?_directory_cons, below] at this
          next => exact Iff.rfl

/-- A path is followed part by part. -/
theorem follow_append (tree : FileTree) (here front back : List String) :
    tree.follow here (front ++ back) = (tree.follow here front).bind (tree.follow · back) := by
  induction front generalizing here with
  | nil => rfl
  | cons part rest ih =>
    rw [List.cons_append, follow, follow]
    split
    · split_ifs
      · exact ih here
      · exact ih here.dropLast
      · exact ih (here ++ [part])
      · rfl
    · rfl

/-- A path leads where it led when something is put where no directory stands. -/
theorem follow_put {node tree : FileTree} {names here there path : List String}
    (closed : ∀ entries, tree.get? names ≠ some (.directory entries))
    (leads : tree.follow here path = some there) :
    (put node names tree).follow here path = some there := by
  induction path generalizing here with
  | nil => exact leads
  | cons part rest ih =>
    rw [follow] at leads ⊢
    split at leads
    next entries found =>
      obtain ⟨more, kept, listed⟩ := directory_put node closed found
      rw [kept]
      dsimp only
      split_ifs at leads ⊢
      · exact ih leads
      · exact ih leads
      · exact ih leads
      · next unlisted held => exact absurd (listed part held) unlisted
    next => cases leads

/-- A file is written to a path in a working directory: the path leads to it, and every other file
is what it was. -/
structure Writes (tree : FileTree) (working : List String) (path : String) (content : List UInt8)
    (after : FileTree) : Prop where
  /-- The path leads to the file. -/
  written : after.at? path working = some (.file content)
  /-- At each other place stands a file exactly if it stood there. -/
  others : ∀ names bytes, after.place? path working ≠ some names →
    (after.get? names = some (.file bytes) ↔ tree.get? names = some (.file bytes))

/-- A file is written under the last part of its path, into the directory to which the parts
before it lead, where no directory stands. -/
theorem exists_of_write? {tree after : FileTree} {working : List String} {path : String}
    {content : List UInt8} (write : tree.write? path content working = some after) :
    ∃ front name home, parts path = front ++ [name] ∧ name ∉ ["", ".", ".."] ∧
      tree.follow (start working path) front = some home ∧
        (∃ entries, tree.get? home = some (.directory entries)) ∧
          (∀ entries, tree.get? (home ++ [name]) ≠ some (.directory entries)) ∧
            after = put (.file content) (home ++ [name]) tree := by
  obtain ⟨name, last, write⟩ := Option.bind_eq_some_iff.mp write
  obtain ⟨home, leads, write⟩ := Option.bind_eq_some_iff.mp write
  obtain ⟨front, divided⟩ := List.getLast?_eq_some_iff.mp last
  rw [divided, List.dropLast_concat] at leads
  split_ifs at write with refused
  rw [List.contains_iff_mem] at refused
  refine ⟨front, name, home, divided, refused, leads, ?_⟩
  split at write
  next entries directory absent =>
    rw [absent]
    exact ⟨⟨entries, directory⟩, nofun, (Option.some.inj write).symm⟩
  next entries old directory file =>
    rw [file]
    exact ⟨⟨entries, directory⟩, nofun, (Option.some.inj write).symm⟩
  next => cases write

/-- What is written to a path stands at the path. -/
theorem writes_of_write? {tree after : FileTree} {working : List String} {path : String}
    {content : List UInt8} (write : tree.write? path content working = some after) :
    tree.Writes working path content after := by
  obtain ⟨front, name, home, divided, named, leads, ⟨entries, directory⟩, closed, rfl⟩ :=
    exists_of_write? write
  simp only [List.mem_cons, List.not_mem_nil, or_false, not_or] at named
  have written := get?_put_self (.file content) (home ++ [name]) tree
  have place : (put (.file content) (home ++ [name]) tree).place? path working =
      some (home ++ [name]) := by
    have entered : (put (.file content) (home ++ [name]) tree).follow home [name] =
        some (home ++ [name]) := by
      obtain ⟨more, kept, -⟩ := directory_put (.file content) closed directory
      have held : (more.lookup name).isSome = true := by
        rw [get?_append, kept, Option.bind_some, get?_directory_cons] at written
        cases found : more.lookup name with
        | none => rw [found] at written; cases written
        | some _ => rfl
      rw [follow, kept]
      simp only [named, held, or_self, if_false, if_true]
      rfl
    have nonempty : path.isEmpty = false := by
      rw [Bool.eq_false_iff, Ne, String.isEmpty_iff]
      rintro rfl
      have single : [""] = front ++ [name] := divided
      cases front with
      | nil => exact named.1 (List.cons.inj single).1.symm
      | cons first rest => simp at single
    rw [place?, nonempty, divided, follow_append, follow_put closed leads]
    exact entered
  refine ⟨by rw [at?, place]; exact written, fun names bytes apart => ?_⟩
  rw [place] at apart
  exact file_put_iff directory closed fun same => apart (by rw [same])

end FileTree

end SchemaProjection
