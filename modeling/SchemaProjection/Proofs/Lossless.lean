import Mathlib.Data.List.Forall2
import SchemaProjection.Format.Json
import SchemaProjection.Proofs.JsonText

/-!
# Lossless formats

A format is lossless when every value that is read from some JSON is read back from how it is
written (`Format.Lossless`). Each way to make a format keeps this. A record is lossless if its
fields are, if their names are distinct, and if what is left out when it is written is what is
assumed when it is missing (`Fields.Sound`). Nothing else about a value matters, as all values of
texts, of truth values and of names are read back; only a phrase has to be in the grammar that it
is written in.
-/
namespace SchemaProjection

open Json (Partial Refusal)

namespace Json

variable {ε δ α β : Type}

/-- What two steps come to, both of them have to come to. -/
theorem bind_eq_ok_iff {first : Except ε α} {next : α → Except ε β} {result : β} :
    (first >>= next) = .ok result ↔ ∃ value, first = .ok value ∧ next value = .ok result := by
  cases first with
  | error fault => exact ⟨nofun, nofun⟩
  | ok value =>
    refine ⟨fun done => ⟨value, rfl, done⟩, ?_⟩
    rintro ⟨_, ⟨⟩, done⟩
    exact done

/-- A changed value comes from a value. -/
theorem map_eq_ok_iff {first : Except ε α} {image : α → β} {result : β} :
    first.map image = .ok result ↔ ∃ value, first = .ok value ∧ image value = result := by
  cases first <;> simp [Except.map]

/-- Changing faults keeps the results that are values. -/
theorem mapError_eq_ok_iff {first : Except ε α} {image : ε → δ} {result : α} :
    first.mapError image = .ok result ↔ first = .ok result := by
  cases first <;> simp [Except.mapError]

end Json

open Json (bind_eq_ok_iff map_eq_ok_iff mapError_eq_ok_iff)

namespace Format

variable {α : Type}

/-- A value is read back from how it is written. -/
def ReadsBack (format : Format α) (value : α) : Prop :=
  format.readJson (format.writeJson value).tree = .ok value

/-- Every value that is read is read back from how it is written. -/
def Lossless (format : Format α) : Prop :=
  ∀ tree value, format.readJson tree = .ok value → format.ReadsBack value

/-- A text is read as what its tree is read as, if nothing else stands in it. -/
theorem ofJsonText_eq_ok_iff {format : Format α} {text : String} {value : α} :
    format.ofJsonText text = .ok value ↔
      format.readJson (Partial.ofText text).1 = .ok value ∧ (Partial.ofText text).2 = true := by
  rw [ofJsonText]
  dsimp only
  rw [bind_eq_ok_iff]
  constructor
  · rintro ⟨other, read, only⟩
    split at only
    · cases only
      exact ⟨read, ‹_›⟩
    · cases only
  · rintro ⟨read, only⟩
    exact ⟨value, read, if_pos only⟩

/-- A value that is read back is read back from its text. -/
theorem ReadsBack.ofJsonText {format : Format α} {value : α} (back : format.ReadsBack value) :
    format.ofJsonText (format.jsonText value) = .ok value := by
  rw [ofJsonText_eq_ok_iff, jsonText, Json.Value.ofText_compact]
  exact ⟨back, rfl⟩

/-- Only the content of a text literal is read as a text. -/
theorem readJsonText_eq_ok_iff {expected content : String} {tree : Partial} :
    readJsonText expected tree = .ok content ↔ tree = .text (some content) := by
  constructor
  · intro read
    rw [readJsonText.eq_def] at read
    split at read
    next =>
      cases read
      rfl
    next => cases read
  · rintro rfl
    rfl

/-- Texts are lossless. -/
theorem lossless_text (expected : String) : (Format.text expected).Lossless := fun _ _ _ => rfl

/-- Truth values are lossless. -/
theorem lossless_bool : Format.bool.Lossless := fun _ _ _ => rfl

/-- Phrases are lossless if what was understood is understood again from how it is written. -/
theorem lossless_phrase {read : String → Except String α} {write : α → String}
    (again : ∀ text value, read text = .ok value → read (write value) = .ok value) :
    (Format.phrase read write).Lossless := by
  intro tree value found
  simp only [readJson, bind_eq_ok_iff, mapError_eq_ok_iff] at found
  obtain ⟨text, -, understood⟩ := found
  simp only [ReadsBack, readJson, bind_eq_ok_iff, mapError_eq_ok_iff]
  exact ⟨write value, rfl, again text value understood⟩

/-- An option is found under a name. -/
theorem readOption_eq_ok_iff {options : List (String × α)} {name : String} {value : α} :
    readOption options name = .ok value ↔ options.lookup name = some value := by
  rw [readOption]
  cases options.lookup name <;> simp

/-- Only options are chosen. -/
theorem exists_lookup_of_readJsonChoice {options : List (String × α)} {tree : Partial} {value : α}
    (read : readJsonChoice options tree = .ok value) :
    ∃ name, options.lookup name = some value := by
  rw [readJsonChoice.eq_def] at read
  split at read
  case h_1 name => exact ⟨name, readOption_eq_ok_iff.mp read⟩
  case h_2 name inner further closed =>
    obtain ⟨chosen, found, only⟩ := bind_eq_ok_iff.mp read
    split at only
    · split at only
      · cases only
        exact ⟨name, readOption_eq_ok_iff.mp found⟩
      · cases only
    · cases only
  case h_3 => cases read

/-- Names are lossless if each option is found under the name that is written for it. -/
theorem lossless_choice {options : List (String × α)} {name : α → String}
    (named : ∀ option ∈ options, options.lookup (name option.2) = some option.2) :
    (Format.choice options name).Lossless := by
  intro tree value read
  obtain ⟨other, found⟩ := exists_lookup_of_readJsonChoice read
  obtain ⟨before, after, rfl, -⟩ := List.lookup_eq_some_iff.mp found
  have listed : (other, value) ∈ before ++ (other, value) :: after :=
    List.mem_append_right _ List.mem_cons_self
  exact readOption_eq_ok_iff.mpr (named _ listed)

/-- Items are read one by one. -/
theorem readJsonItems_eq_ok_iff {read : Partial → Except Refusal α} {closed : Bool}
    {trees : List Partial} {values : List α} :
    readJsonItems read closed trees = .ok values ↔
      closed = true ∧ List.Forall₂ (fun tree value => read tree = .ok value) trees values := by
  induction trees generalizing values with
  | nil => cases closed <;> cases values <;> simp [readJsonItems]
  | cons tree rest ih =>
    simp only [readJsonItems, bind_eq_ok_iff, ih, List.forall₂_cons_left_iff, Except.ok.injEq]
    constructor
    · rintro ⟨value, first, others, ⟨whole, further⟩, rfl⟩
      exact ⟨whole, value, others, first, further, rfl⟩
    · rintro ⟨whole, value, others, first, further, rfl⟩
      exact ⟨value, first, others, ⟨whole, further⟩, rfl⟩

/-- The trees of a list of documents. -/
theorem itemTrees_eq (values : List Json.Value) :
    Json.Value.itemTrees values = values.map Json.Value.tree := by
  induction values with
  | nil => rfl
  | cons value rest ih => rw [Json.Value.itemTrees, ih, List.map_cons]

/-- Lists are lossless if their items are. -/
theorem Lossless.list {item : Format α} (lossless : item.Lossless) :
    (Format.list item).Lossless := by
  intro tree values read
  simp only [readJson] at read
  split at read
  case h_1 trees closed =>
    have each := (readJsonItems_eq_ok_iff.mp read).2
    refine readJsonItems_eq_ok_iff.mpr ⟨rfl, ?_⟩
    rw [itemTrees_eq, List.map_map, List.forall₂_map_left_iff, List.forall₂_same]
    clear read
    induction each with
    | nil => exact List.forall_mem_nil _
    | cons first _ ih => exact List.forall_mem_cons.mpr ⟨lossless _ _ first, ih⟩
  case h_2 => cases read

/-- Only the missing value stands as the missing value. -/
theorem tree_eq_null_iff {value : Json.Value} : value.tree = .null ↔ value = .null := by
  cases value <;> simp [Json.Value.tree]

/-- A tree that is not the missing value is read as what may be missing is where it is there. -/
theorem readJson_optional_of_ne_null {present : Format α} {tree : Partial}
    (nonnull : tree ≠ .null) :
    (Format.optional present).readJson tree = (present.readJson tree).map Option.some := by
  simp only [readJson]

/-- A value that may be missing is lossless if the value is and never stands as a missing one. -/
theorem Lossless.optional {present : Format α} (lossless : present.Lossless)
    (stands : ∀ value, present.writeJson value ≠ .null) : (Format.optional present).Lossless := by
  intro tree value read
  cases value with
  | none => rfl
  | some value =>
    have there : tree ≠ .null := by
      rintro rfl
      cases read
    rw [readJson_optional_of_ne_null there, map_eq_ok_iff] at read
    obtain ⟨_, found, ⟨⟩⟩ := read
    have written : (present.writeJson value).tree ≠ .null :=
      fun missing => stands value (tree_eq_null_iff.mp missing)
    rw [ReadsBack, writeJson]
    dsimp only
    rw [readJson_optional_of_ne_null written, lossless tree value found]
    rfl

end Format

namespace Fields

variable {α values draft : Type}

/-- The names of the fields. -/
def names {values draft : Type} : Fields values draft → List String
  | .none => []
  | .field name _ _ _ others => name :: others.names

/-- The fields of a record are lossless: their names are distinct, their formats are lossless, and
the value of a field that is left out when it is written is the one that is assumed for it. -/
inductive Sound : {values draft : Type} → Fields values draft → Prop
  /-- No field. -/
  | none : Sound .none
  /-- A field before the others. -/
  | field {α values draft : Type} {name : String} {format : Format α} {absent : Option α}
    {hidden : α → Bool} {others : Fields values draft} (fresh : name ∉ others.names)
    (lossless : format.Lossless) (assumed : ∀ value, absent = some value → format.ReadsBack value)
    (hides : ∀ value, hidden value = true → absent = some value) (further : others.Sound) :
    Sound (.field name format absent hidden others)

/-- All values of a record are read back. -/
def Kept {values draft : Type} : Fields values draft → values → Prop
  | .none => fun _ => True
  | .field _ format _ _ others => fun (value, values) => format.ReadsBack value ∧ others.Kept values

/-- All values that were found for a record are read back. -/
def Found {values draft : Type} : Fields values draft → draft → Prop
  | .none => fun _ => True
  | .field _ format _ _ others => fun (found, draft) =>
    (∀ value, found = some value → format.ReadsBack value) ∧ others.Found draft

/-- What is found of values in a record that is written. -/
def written {values draft : Type} : Fields values draft → values → draft
  | .none => fun _ => ()
  | .field _ _ _ hidden others => fun (value, values) =>
    (if hidden value then .none else some value, others.written values)

variable {name : String} {format : Format α} {absent : Option α} {hidden : α → Bool}
  {others : Fields values draft}

/-- A value that is hidden is not written. -/
theorem writeJson_hidden {value : α} (hid : hidden value = true) (rest : values) :
    (Fields.field name format absent hidden others).writeJson (value, rest) =
      others.writeJson rest := by
  simp only [writeJson, if_pos hid]

/-- A value that is not hidden is written before the others. -/
theorem writeJson_shown {value : α} (shown : ¬hidden value = true) (rest : values) :
    (Fields.field name format absent hidden others).writeJson (value, rest) =
      (name, format.writeJson value) :: others.writeJson rest := by
  simp only [writeJson, if_neg shown]

/-- A member with the name of a field is stored in its place. -/
theorem storeJson_self (value : Partial) (before : draft) :
    (Fields.field name format absent hidden others).storeJson name value (.none, before) =
      some ((format.readJson value).map fun value => (some value, before)) := by
  simp only [storeJson, if_pos]

/-- A member with another name is stored behind a field. -/
theorem storeJson_other {key : String} (other : key ≠ name) (value : Partial) (found : Option α)
    (before : draft) :
    (Fields.field name format absent hidden others).storeJson key value (found, before) =
      (others.storeJson key value before).map fun stored => stored.map (found, ·) := by
  simp only [storeJson, if_neg other]

/-- The value of a field is the one that was found or else the one that is assumed. -/
theorem complete_field {found : Option α} {value : α} (filled : found.or absent = some value)
    (before : draft) :
    (Fields.field name format absent hidden others).complete (found, before) =
      (others.complete before).map (value, ·) := by
  simp only [complete, filled]

/-- A required field with a lossless format keeps the fields of a record lossless. -/
theorem Sound.required
    (fresh : name ∉ others.names) (lossless : format.Lossless) (further : others.Sound) :
    (Fields.required name format others).Sound :=
  .field fresh lossless nofun nofun further

/-- A field for which a lossless value is assumed keeps the fields of a record lossless. -/
theorem Sound.defaulted {default : α} (fresh : name ∉ others.names)
    (lossless : format.Lossless) (assumed : format.ReadsBack default) (further : others.Sound) :
    (Fields.defaulted name format default others).Sound :=
  .field fresh lossless (fun _ same => Option.some.inj same ▸ assumed) nofun further

/-- A field that is written only when it has a value keeps the fields of a record lossless. -/
theorem Sound.maybe (fresh : name ∉ others.names) (lossless : format.Lossless)
    (stands : ∀ value, format.writeJson value ≠ .null) (further : others.Sound) :
    (Fields.maybe name format others).Sound :=
  .field fresh (lossless.optional stands) (fun _ same => Option.some.inj same ▸ rfl)
    (fun _ missing => congrArg some (Option.isNone_iff_eq_none.mp missing).symm) further

/-- In a blank draft nothing was found. -/
theorem found_blank {values draft : Type} :
    (layout : Fields values draft) → layout.Found layout.blank
  | .none => trivial
  | .field _ _ _ _ others => ⟨nofun, others.found_blank⟩

/-- A stored member is a value that was read. -/
theorem Sound.storeJson {layout : Fields values draft} (sound : layout.Sound) {key : String}
    {value : Partial} {before after : draft} (found : layout.Found before)
    (stores : layout.storeJson key value before = some (.ok after)) : layout.Found after := by
  induction sound with
  | none => cases stores
  | @field α values draft name format absent hidden others fresh lossless assumed hides _ ih =>
    obtain ⟨first, before⟩ := before
    obtain ⟨kept, others⟩ := found
    simp only [Fields.storeJson] at stores
    split at stores
    · split at stores
      · cases stores
      · obtain ⟨value, read, rfl⟩ := Json.map_eq_ok_iff.mp (Option.some.inj stores)
        exact ⟨fun _ same => Option.some.inj same ▸ lossless _ _ read, others⟩
    · obtain ⟨_, stored, same⟩ := Option.map_eq_some_iff.mp stores
      obtain ⟨_, rfl, rfl⟩ := Json.map_eq_ok_iff.mp same
      exact ⟨kept, ih others stored⟩

/-- Members that are read are values that were read. -/
theorem Sound.readJsonMembers {layout : Fields values draft} (sound : layout.Sound) {closed : Bool}
    {members : List (Partial × Partial)} {before after : draft} (found : layout.Found before)
    (read : Format.readJsonMembers layout.storeJson closed members before = .ok after) :
    layout.Found after := by
  induction members generalizing before with
  | nil =>
    rw [Format.readJsonMembers] at read
    split at read <;> cases read
    exact found
  | cons member rest ih =>
    rw [Format.readJsonMembers.eq_def] at read
    split at read
    case h_1 none => cases none
    case h_2 key value others next same =>
      cases same
      split at read
      case h_1 stored stores => exact ih (sound.storeJson found stores) read
      case h_2 => cases read
      case h_3 =>
        split at read
        · exact ih found read
        · cases read
    case h_3 => cases read

/-- The values of a draft were found or are assumed. -/
theorem Sound.complete {layout : Fields values draft} (sound : layout.Sound) {found : draft}
    {result : values} (kept : layout.Found found) (complete : layout.complete found = .ok result) :
    layout.Kept result := by
  induction sound with
  | none => trivial
  | @field α values draft name format absent hidden others fresh lossless assumed hides _ ih =>
    obtain ⟨first, found⟩ := found
    simp only [Fields.complete] at complete
    split at complete
    case h_1 => cases complete
    case h_2 value filled =>
      obtain ⟨_, rest, rfl⟩ := Json.map_eq_ok_iff.mp complete
      refine ⟨?_, ih kept.2 rest⟩
      obtain here | ⟨-, default⟩ := Option.or_eq_some_iff.mp filled
      · exact kept.1 value here
      · exact assumed value default

/-- The values of a row were read or are assumed. -/
theorem Sound.readJsonRow {layout : Fields values draft} (sound : layout.Sound) {record : String}
    {size index : Nat} {closed : Bool} {items : List Partial} {result : values}
    (read : layout.readJsonRow record size index closed items = .ok result) :
    layout.Kept result := by
  induction sound generalizing index items with
  | none => trivial
  | @field α values draft name format absent hidden others fresh lossless assumed hides _ ih =>
    simp only [Fields.readJsonRow] at read
    split at read
    case h_1 item rest =>
      obtain ⟨value, first, read⟩ := Json.bind_eq_ok_iff.mp read
      obtain ⟨_, others, same⟩ := Json.bind_eq_ok_iff.mp read
      cases same
      exact ⟨lossless item value first, ih others⟩
    case h_2 =>
      split at read
      · split at read
        case h_1 value =>
          obtain ⟨_, others, rfl⟩ := Json.map_eq_ok_iff.mp read
          exact ⟨assumed value rfl, ih others⟩
        case h_2 => cases read
      · cases read

/-- The members of a record that is written have the names of its fields. -/
theorem mem_names_of_mem_writeJson {values draft : Type} {key : String} {value : Json.Value} :
    (layout : Fields values draft) → (contents : values) →
      (key, value) ∈ layout.writeJson contents → key ∈ layout.names
  | .none, _, listed => by cases listed
  | .field name format _ hidden others, (first, rest), listed => by
    by_cases hid : hidden first = true
    · rw [writeJson_hidden hid] at listed
      exact List.mem_cons_of_mem _ (others.mem_names_of_mem_writeJson rest listed)
    · rw [writeJson_shown hid] at listed
      obtain same | listed := List.mem_cons.mp listed
      · exact (Prod.mk.inj same).1 ▸ List.mem_cons_self
      · exact List.mem_cons_of_mem _ (others.mem_names_of_mem_writeJson rest listed)

/-- Members with other names than that of the first field are stored behind it. -/
theorem readJsonMembers_others {members : List (String × Json.Value)}
    (fresh : ∀ member ∈ members, member.1 ≠ name) (found : Option α) (before : draft) :
    Format.readJsonMembers (Fields.field name format absent hidden others).storeJson true
        (Json.Value.memberTrees members) (found, before) =
      (Format.readJsonMembers others.storeJson true (Json.Value.memberTrees members) before).map
        (found, ·) := by
  induction members generalizing before with
  | nil => rfl
  | cons member rest ih =>
    obtain ⟨key, value⟩ := member
    have other : key ≠ name := fresh _ List.mem_cons_self
    have further := ih fun member listed => fresh member (List.mem_cons_of_mem _ listed)
    simp only [Json.Value.memberTrees, Format.readJsonMembers, storeJson_other other]
    cases others.storeJson key value.tree before with
    | none =>
      simp only [Option.map_none, further]
      split <;> rfl
    | some stored =>
      cases stored with
      | error refusal => rfl
      | ok after => exact further after

/-- The values of a record that is written are found again. -/
theorem Sound.readJsonMembers_written {layout : Fields values draft} (sound : layout.Sound)
    {contents : values} (kept : layout.Kept contents) :
    Format.readJsonMembers layout.storeJson true
      (Json.Value.memberTrees (layout.writeJson contents)) layout.blank =
        .ok (layout.written contents) := by
  induction sound with
  | none => rfl
  | @field α values draft name format absent hidden others fresh lossless assumed hides _ ih =>
    obtain ⟨value, rest⟩ := contents
    obtain ⟨back, kept⟩ := kept
    have apart : ∀ member ∈ others.writeJson rest, member.1 ≠ name := by
      rintro ⟨key, member⟩ listed rfl
      exact fresh (others.mem_names_of_mem_writeJson rest listed)
    -- The first field is written before the others or not at all, so it is found at once or never.
    by_cases hid : hidden value = true
    · rw [writeJson_hidden hid, blank, readJsonMembers_others apart, ih kept]
      simp only [written, if_pos hid]
      rfl
    · rw [writeJson_shown hid, blank, Json.Value.memberTrees, Format.readJsonMembers,
        storeJson_self, back]
      simp only [Except.map, written, if_neg hid, readJsonMembers_others apart, ih kept]

/-- What is found of a record that is written makes up its values. -/
theorem Sound.complete_written {layout : Fields values draft} (sound : layout.Sound)
    (contents : values) : layout.complete (layout.written contents) = .ok contents := by
  induction sound with
  | none => rfl
  | @field α values draft name format absent hidden others fresh lossless assumed hides _ ih =>
    obtain ⟨value, rest⟩ := contents
    have filled : (if hidden value then Option.none else some value).or absent = some value := by
      split
      case isTrue hid => exact hides value hid
      case isFalse => rfl
    rw [written]
    dsimp only
    rw [complete_field filled, ih rest]
    rfl

end Fields

namespace Format

variable {α values draft : Type} {name : String} {layout : Fields values draft}
  {build : values → α} {parts : α → values}

/-- A record of values that are read back is read back. -/
theorem readsBack_record (sound : layout.Sound)
    (inverse : ∀ contents, parts (build contents) = contents) {contents : values}
    (kept : layout.Kept contents) :
    (Format.record name layout build parts).ReadsBack (build contents) := by
  rw [ReadsBack, writeJson]
  dsimp only
  rw [inverse]
  simp only [Json.Value.tree, readJson, sound.readJsonMembers_written kept, bind_eq_ok_iff]
  exact ⟨_, rfl, _, mapError_eq_ok_iff.mpr (sound.complete_written contents), rfl⟩

/-- Records are lossless if their fields are and their values are their parts. -/
theorem lossless_record (sound : layout.Sound)
    (inverse : ∀ contents, parts (build contents) = contents) :
    (Format.record name layout build parts).Lossless := by
  intro tree value read
  simp only [readJson] at read
  split at read
  case h_1 members closed =>
    obtain ⟨found, stored, read⟩ := bind_eq_ok_iff.mp read
    obtain ⟨contents, complete, same⟩ := bind_eq_ok_iff.mp read
    cases same
    have kept := sound.readJsonMembers layout.found_blank stored
    exact readsBack_record sound inverse (sound.complete kept (mapError_eq_ok_iff.mp complete))
  case h_2 items closed =>
    obtain ⟨contents, row, same⟩ := bind_eq_ok_iff.mp read
    cases same
    exact readsBack_record sound inverse (sound.readJsonRow row)
  case h_3 => cases read

end Format

end SchemaProjection
