import SchemaProjection.Proofs.Readers
import SchemaProjection.Proofs.WrittenFile
import SchemaProjection.Settings.Layer

/-!
# Settings over each other

A layer of settings is a list of entries: a group of settings, whose name may be in any case of
letters, or a single setting under the path of its name (`SettingValue.IsEntry`). Each entry makes
assignments to single settings and leaves all others as they are. So after a layer a setting has
the value that the layer assigned to it last, or else the one that it had
(`SettingValue.leaf?_overlay`).
-/
namespace SchemaProjection

namespace SettingValue

open Text (Reader)

/-- A letter is part of a name if the small letter is. -/
theorem isPathChar_of_toLower {c : Char} (lower : isPathChar c.toLower = true) :
    isPathChar c = true := by
  by_cases upper : c.isUpper = true
  · have letter : c.isAlpha = true := Bool.or_eq_true_iff.mpr (.inl upper)
    have named : c.isAlphanum = true := Bool.or_eq_true_iff.mpr (.inl letter)
    rw [isPathChar, named]
    rfl
  · have same : c.toLower = c := dif_neg fun large => upper (decide_eq_true large)
    rwa [same] at lower

/-- The names of the groups. -/
def groupNames : List String := ["compiler", "declarations", "output"]

/-- A name of a group, in any case of letters, has only letters. -/
theorem isPathChar_of_smallName {name : String} (named : smallName name ∈ groupNames) :
    ∀ c ∈ name.toList, isPathChar c = true := by
  have letters : groupNames.all (fun group =>
      group.toList.all fun c => isPathChar c && c != 'k') = true := by decide
  intro c held
  have small : (if c == '\u212A' then 'k' else c.toLower) ∈ (smallName name).toList := by
    rw [smallName, String.toList_map]
    exact List.mem_map_of_mem held
  have both := List.all_eq_true.mp (List.all_eq_true.mp letters _ named) _ small
  rw [Bool.and_eq_true, bne_iff_ne] at both
  obtain ⟨letter, other⟩ := both
  split at letter
  next kelvin => rw [if_pos kelvin] at other; exact absurd rfl other
  next => exact isPathChar_of_toLower letter

/-- Characters of a name are a path of one name. -/
theorem pathOf_of_isPathChar {name : String} (nonempty : name ≠ "")
    (all : ∀ c ∈ name.toList, isPathChar c = true) : pathOf name = [.name name] := by
  have whole : Reader.whole? path name.toList = some [Step.name name] := by
    cases chars : name.toList with
    | nil => exact absurd (String.toList_inj.mp chars) nonempty
    | cons first rest =>
      rw [chars, List.forall_mem_cons] at all
      have further := @Reader.spanning_append rest [] isPathChar all.2 nofun
      rw [List.append_nil] at further
      have taken : pathName (first :: rest) = some (Step.name name, []) := by
        rw [pathName, Reader.bind_apply, Reader.satisfying_cons all.1, Option.bind_some,
          Reader.bind_apply, further, Option.bind_some, ← chars, String.ofList_toList]
        rfl
      have ends : ((Reader.char '.' *> pathName) <|> pathIndex) [] = none := rfl
      rw [Reader.whole?, path, Reader.bind_apply, taken, Option.bind_some, Reader.bind_apply,
        Reader.many, Reader.repeated_of_none ends]
      rfl
  rw [pathOf, whole, Option.getD_some]

/-- The name of a group, in any case of letters, is a path of one name. -/
theorem pathOf_of_smallName {name : String} (named : smallName name ∈ groupNames) :
    pathOf name = [.name name] := by
  refine pathOf_of_isPathChar ?_ (isPathChar_of_smallName named)
  rintro rfl
  have empty : smallName "" = "" := by
    rw [← String.toList_inj, smallName, String.toList_map]
    rfl
  rw [empty] at named
  exact absurd named (by decide)

/-- Whether a value is a group. -/
def isGroup : SettingValue → Bool
  | .group _ => true
  | _ => false

/-- A group is the group of its entries. -/
theorem eq_group_of_isGroup {value : SettingValue} (isGroup : value.isGroup = true) :
    value = .group value.entries := by
  cases value with
  | group entries => rfl
  | missing | bool | integer | float | text | list => cases isGroup

/-- The entries of a group. -/
@[simp] theorem entries_group (entries : List (String × SettingValue)) :
    (group entries).entries = entries := rfl

/-- What a name stands for that is given a value: a group is merged into what it stood for. -/
def merged (old : Option SettingValue) : SettingValue → SettingValue
  | .group entries => mergeEntries (old.getD (.group [])) entries
  | value => value

/-- A value that is no group takes the place of any other. -/
theorem merged_of_isGroup_eq_false {value : SettingValue} (single : value.isGroup = false)
    (old : Option SettingValue) : merged old value = value := by
  cases value with
  | group => cases single
  | missing | bool | integer | float | text | list => rfl

/-- A value is put into a group under the small letters of its name. -/
theorem assign_eq (below : SettingValue) (name : String) (value : SettingValue) :
    below.assign name value = .group (Entries.put (smallName name)
      (merged (below.entries.lookup (smallName name)) value) below.entries) := by
  cases value <;> rw [assign] <;> first | rfl | nofun

/-- What has been given a value is a group. -/
theorem isGroup_assign (below : SettingValue) (name : String) (value : SettingValue) :
    (below.assign name value).isGroup = true := by
  rw [assign_eq]
  rfl

/-- A name is given what is assigned to it, and the other names stand for what they stood for. -/
theorem lookup_assign (below : SettingValue) (name : String) (value : SettingValue)
    (other : String) :
    (below.assign name value).entries.lookup other =
      if other = smallName name then
        some (merged (below.entries.lookup (smallName name)) value)
      else below.entries.lookup other := by
  rw [assign_eq, entries_group, Entries.lookup_put]

/-- The last value that entries give to a name, in any case of letters. -/
def last? (entries : List (String × SettingValue)) (name : String) : Option SettingValue :=
  (entries.map fun entry => (smallName entry.1, entry.2)).reverse.lookup name

/-- A later entry for a name counts before the earlier ones. -/
theorem last?_cons (entry : String × SettingValue) (rest : List (String × SettingValue))
    (name : String) :
    last? (entry :: rest) name =
      (last? rest name).or (if name = smallName entry.1 then some entry.2 else none) := by
  rw [last?, List.map_cons, List.reverse_cons, List.lookup_append, Entries.lookup_cons]
  rfl

/-- After a merge, a name stands for the last value that it was given, if that is no group, or
else for what it stood for. -/
theorem lookup_mergeEntries {entries : List (String × SettingValue)} {name : String}
    (single : ∀ value, last? entries name = some value → value.isGroup = false)
    (below : SettingValue) :
    (mergeEntries below entries).entries.lookup name =
      (last? entries name).or (below.entries.lookup name) := by
  induction entries generalizing below with
  | nil => rw [mergeEntries]; rfl
  | cons entry rest ih =>
    obtain ⟨held, value⟩ := entry
    rw [last?_cons] at single ⊢
    rw [mergeEntries, ih fun value last => single value (by rw [last]; rfl), lookup_assign,
      Option.or_assoc]
    cases later : last? rest name with
    | some last => rfl
    | none =>
      rw [later] at single
      by_cases here : name = smallName held
      · rw [if_pos here] at single ⊢
        rw [if_pos here, merged_of_isGroup_eq_false (single value rfl)]
        rfl
      · rw [if_neg here, if_neg here]
        rfl

/-- What a group is merged with is a group. -/
theorem isGroup_mergeEntries {below : SettingValue} (group : below.isGroup = true)
    (entries : List (String × SettingValue)) : (mergeEntries below entries).isGroup = true := by
  induction entries generalizing below with
  | nil => rwa [mergeEntries]
  | cons entry rest ih =>
    rw [mergeEntries]
    exact ih (isGroup_assign below _ _)

/-- The value of a setting of a group. -/
def leaf? (value : SettingValue) (group key : String) : Option SettingValue :=
  (value.entries.lookup group).bind fun inner => inner.entries.lookup key

/-- A value in which each name of a group stands for a group, if for anything. -/
structure Grouped (value : SettingValue) : Prop where
  /-- The value is a group itself. -/
  isGroup : value.isGroup = true
  /-- What stands under a name of a group is a group. -/
  inner : ∀ name ∈ groupNames, ∀ inner, value.entries.lookup name = some inner →
    inner.isGroup = true

/-- An entry of a layer: a group, or a single setting under a path of two names. -/
inductive IsEntry : String × SettingValue → Prop
  /-- A group, in any case of letters. -/
  | group {name : String} {entries : List (String × SettingValue)}
      (named : smallName name ∈ groupNames) : IsEntry (name, .group entries)
  /-- A single setting. -/
  | single {name group key : String} {value : SettingValue}
      (path : pathOf name = [.name group, .name key]) (single : value.isGroup = false) :
      IsEntry (name, value)

/-- The value that an entry gives to a setting of a group. -/
def entryValue? (group key : String) : String × SettingValue → Option SettingValue
  | (name, .group entries) => if group = smallName name then last? entries key else none
  | (name, value) =>
    match pathOf name with
    | [.name outer, .name inner] =>
      if group = smallName outer ∧ key = smallName inner then some value else none
    | _ => none

/-- The value that a layer gives to a setting of a group, which is that of its last entry for
it. -/
def given? (group key : String) (layer : List (String × SettingValue)) : Option SettingValue :=
  layer.reverse.findSome? (entryValue? group key)

variable {below : SettingValue} {group key : String}

/-- The value of a setting of a group where the group may be missing. -/
theorem lookup_getD {other : SettingValue} (empty : other.entries = []) :
    (((below.entries.lookup group).getD other).entries.lookup key) = below.leaf? group key := by
  rw [leaf?]
  cases below.entries.lookup group with
  | none => rw [Option.getD_none, empty]; rfl
  | some inner => rfl

/-- A value that is put under a name stands for the settings of the group of the name. -/
theorem leaf?_put (name : String) (value : SettingValue) :
    (SettingValue.group (Entries.put name value below.entries)).leaf? group key =
      if group = name then value.entries.lookup key else below.leaf? group key := by
  rw [leaf?, entries_group, Entries.lookup_put]
  split <;> rfl

/-- A value in which a group is put under a name is grouped as it was. -/
theorem Grouped.put (grouped : below.Grouped) {value : SettingValue}
    (inner : value.isGroup = true) (name : String) :
    (SettingValue.group (Entries.put name value below.entries)).Grouped := by
  refine ⟨rfl, fun other listed held found => ?_⟩
  rw [entries_group, Entries.lookup_put] at found
  split at found
  · cases found; exact inner
  · exact grouped.inner other listed held found

/-- An entry gives settings their values, if those are no groups, and the other settings have the
values that they had. -/
theorem IsEntry.assignPath? {entry : String × SettingValue} (isEntry : IsEntry entry)
    (grouped : below.Grouped) :
    ∃ above, SettingValue.assignPath? (pathOf entry.1) entry.2 below = some above ∧
      above.Grouped ∧ ∀ group key,
        (∀ value, entryValue? group key entry = some value → value.isGroup = false) →
          above.leaf? group key = (entryValue? group key entry).or (below.leaf? group key) := by
  cases isEntry with
  | @group name entries named =>
    have old : ((below.entries.lookup (smallName name)).getD (.group [])).isGroup = true := by
      cases found : below.entries.lookup (smallName name) with
      | none => rfl
      | some inner => exact grouped.inner _ named inner found
    refine ⟨below.assign name (.group entries), by rw [pathOf_of_smallName named]; rfl, ?_, ?_⟩
    · rw [assign_eq]
      exact grouped.put (isGroup_mergeEntries old entries) _
    · intro group key single
      rw [assign_eq, leaf?_put]
      rw [entryValue?] at single ⊢
      split
      next here =>
        subst here
        rw [if_pos rfl] at single
        rw [merged, lookup_mergeEntries single, lookup_getD rfl]
      next => rfl
  | @single name outer inner value path single =>
    refine ⟨_, by rw [path]; rfl, grouped.put (isGroup_assign _ _ _) _, fun group key _ => ?_⟩
    have given : entryValue? group key (name, value) =
        if group = smallName outer ∧ key = smallName inner then some value else none := by
      cases value with
      | group => cases single
      | missing | bool | integer | float | text | list => rw [entryValue?, path]; nofun
    rw [leaf?_put, lookup_assign, merged_of_isGroup_eq_false single, lookup_getD rfl, given]
    by_cases here : group = smallName outer
    · subst here
      by_cases same : key = smallName inner <;> simp [same]
    · simp [here]

/-- A later layer counts before an earlier one. -/
theorem given?_append (group key : String) (layer above : List (String × SettingValue)) :
    given? group key (layer ++ above) = (given? group key above).or (given? group key layer) := by
  rw [given?, List.reverse_append, List.findSome?_append]
  rfl

/-- A later entry counts before an earlier one. -/
theorem given?_cons (group key : String) (entry : String × SettingValue)
    (rest : List (String × SettingValue)) :
    given? group key (entry :: rest) =
      (given? group key rest).or (entryValue? group key entry) := by
  rw [← List.singleton_append, given?_append]
  congr 1
  exact List.findSome?_singleton

/-- After a layer, a setting has the value that the layer gave it, if that is no group, or else
the one that it had. -/
theorem leaf?_overlay {layer : List (String × SettingValue)}
    (entries : ∀ entry ∈ layer, IsEntry entry) (grouped : below.Grouped) :
    ∃ above, below.overlay layer = .ok above ∧ above.Grouped ∧ ∀ group key,
      (∀ value, given? group key layer = some value → value.isGroup = false) →
        above.leaf? group key = (given? group key layer).or (below.leaf? group key) := by
  induction layer generalizing below with
  | nil => exact ⟨below, rfl, grouped, fun _ _ _ => rfl⟩
  | cons entry rest ih =>
    rw [List.forall_mem_cons] at entries
    obtain ⟨next, assigned, grouped, first⟩ := entries.1.assignPath? grouped
    obtain ⟨above, overlaid, grouped, others⟩ := ih entries.2 grouped
    refine ⟨above, by rw [overlay, assigned]; exact overlaid, grouped, fun group key single => ?_⟩
    rw [given?_cons] at single ⊢
    rw [others group key fun value later => single value (by rw [later]; rfl), Option.or_assoc]
    cases later : given? group key rest with
    | some value => rfl
    | none =>
      rw [later] at single
      exact first group key single

end SettingValue

end SchemaProjection
