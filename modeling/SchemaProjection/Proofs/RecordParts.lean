import SchemaProjection.Proofs.Lossless

/-!
# Parts of records

A record stands as an object or as an array, and for each of its fields there is at most one part
of the tree that tells it: the member of its name, or the item in its place (`Partial.part?`). If
the fields have distinct names, a record that is read is made of what these parts are read as, and
of what is assumed for the fields that have none (`Format.told_of_record`).
-/
namespace SchemaProjection

open Json (Partial Refusal bind_eq_ok_iff map_eq_ok_iff mapError_eq_ok_iff)

namespace Json.Partial

/-- A key is a name. -/
def isKey (name : String) : Partial → Bool
  | .text (some key) => key == name
  | _ => false

/-- The first member of a name. -/
def member? (name : String) (members : List (Partial × Partial)) : Option Partial :=
  (members.find? fun member => isKey name member.1).map Prod.snd

/-- The part of a tree that tells the field of a record: the member of its name, or the item in its
place. -/
def part? (name : String) (place : Nat) : Partial → Option Partial
  | .object members _ => member? name members
  | .array items _ => items[place]?
  | _ => none

/-- The first member of a name may be the first of all. -/
theorem member?_cons_self (name : String) (value : Partial) (rest : List (Partial × Partial)) :
    member? name ((.text (some name), value) :: rest) = some value := by
  simp [member?, isKey]

/-- A member of another name is passed over. -/
theorem member?_cons_other {name key : String} (other : key ≠ name) (value : Partial)
    (rest : List (Partial × Partial)) :
    member? name ((.text (some key), value) :: rest) = member? name rest := by
  simp [member?, isKey, other]

end Json.Partial

open Json.Partial (member? part? member?_cons_self member?_cons_other)

namespace Fields

/-- The values of a record are read from parts, given the name and the place of each field, or are
assumed where there is no part. -/
def Told (part : String → Nat → Option Partial) :
    {values draft : Type} → Nat → Fields values draft → values → Prop
  | _, _, _, .none => fun _ => True
  | _, _, place, .field name format absent _ others => fun (value, values) =>
    (∀ tree, part name place = some tree → format.readJson tree = .ok value) ∧
      (part name place = .none → absent = some value) ∧ others.Told part (place + 1) values

/-- Members turn one draft into another: where a field has a member nothing was found before, and
what the member is read as was found afterwards; what was found of other fields stays. -/
def Gains (members : List (Partial × Partial)) :
    {values draft : Type} → Fields values draft → draft → draft → Prop
  | _, _, .none => fun _ _ => True
  | _, _, .field name format _ _ others => fun (before, drafted) (after, filled) =>
    (∀ tree, member? name members = some tree →
      before = .none ∧ ∃ value, format.readJson tree = .ok value ∧ after = some value) ∧
        (member? name members = .none → after = before) ∧ others.Gains members drafted filled

variable {values draft : Type}

/-- Without members nothing is gained. -/
theorem gains_nil {values draft : Type} :
    (layout : Fields values draft) → (found : draft) → layout.Gains [] found found
  | .none, _ => trivial
  | .field _ _ _ _ others, (_, found) => ⟨nofun, fun _ => rfl, others.gains_nil found⟩

/-- A member whose name no field has changes nothing of what is gained. -/
theorem gains_cons_of_not_mem {key : String} {value : Partial} {rest : List (Partial × Partial)}
    {values draft : Type} :
    (layout : Fields values draft) → {before after : draft} → key ∉ layout.names →
      layout.Gains rest before after → layout.Gains ((.text (some key), value) :: rest) before after
  | .none, _, _, _, _ => trivial
  | .field name format absent hidden others, (_, _), (_, _), unnamed, gains => by
    obtain ⟨told, untold, further⟩ := gains
    have other : key ≠ name := fun same => unnamed (same ▸ List.mem_cons_self)
    rw [Gains, member?_cons_other other]
    exact ⟨told, untold, others.gains_cons_of_not_mem
      (fun named => unnamed (List.mem_cons_of_mem _ named)) further⟩

/-- A member that is not stored has the name of no field. -/
theorem not_mem_names_of_storeJson {key : String} {value : Partial} {values draft : Type} :
    (layout : Fields values draft) → {before : draft} →
      layout.storeJson key value before = .none → key ∉ layout.names
  | .none, _, _ => List.not_mem_nil
  | .field name format absent hidden others, (found, before), passed => by
    by_cases same : key = name
    · simp only [storeJson, if_pos same] at passed
      cases found <;> cases passed
    · rw [storeJson_other same, Option.map_eq_none_iff] at passed
      exact List.not_mem_cons_of_ne_of_not_mem same (others.not_mem_names_of_storeJson passed)

/-- A member that is stored is gained before those behind it. -/
theorem gains_cons_of_storeJson {key : String} {value : Partial} {rest : List (Partial × Partial)}
    {values draft : Type} :
    (layout : Fields values draft) → {before middle after : draft} → layout.names.Nodup →
      layout.storeJson key value before = some (.ok middle) → layout.Gains rest middle after →
        layout.Gains ((.text (some key), value) :: rest) before after
  | .none, _, _, _, _, stores, _ => by cases stores
  | .field name format absent hidden others, before, middle, after, distinct, stores, gains => by
    obtain ⟨found, before⟩ := before
    obtain ⟨stored, middle⟩ := middle
    obtain ⟨gained, after⟩ := after
    obtain ⟨told, untold, further⟩ := gains
    obtain ⟨fresh, distinct⟩ := List.nodup_cons.mp distinct
    by_cases same : key = name
    · subst same
      cases found with
      | some old =>
        simp only [storeJson, if_pos] at stores
        cases stores
      | none =>
        rw [storeJson_self, Option.some.injEq, map_eq_ok_iff] at stores
        obtain ⟨content, read, stores⟩ := stores
        cases stores
        rw [Gains, member?_cons_self]
        have once : member? key rest = .none := by
          by_contra again
          obtain ⟨tree, again⟩ := Option.ne_none_iff_exists'.mp again
          cases (told tree again).1
        refine ⟨?_, fun absent => ?_, others.gains_cons_of_not_mem fresh further⟩
        · rintro tree ⟨⟩
          exact ⟨rfl, content, read, untold once⟩
        · cases absent
    · rw [storeJson_other same] at stores
      obtain ⟨_, stores, ok⟩ := Option.map_eq_some_iff.mp stores
      obtain ⟨_, rfl, ok⟩ := map_eq_ok_iff.mp ok
      cases ok
      rw [Gains, member?_cons_other same]
      exact ⟨told, untold, others.gains_cons_of_storeJson distinct stores further⟩

/-- What is read of members is gained from them. -/
theorem gains_of_readJsonMembers {layout : Fields values draft} (distinct : layout.names.Nodup)
    {closed : Bool} {members : List (Partial × Partial)} {before after : draft}
    (read : Format.readJsonMembers layout.storeJson closed members before = .ok after) :
    layout.Gains members before after := by
  induction members generalizing before with
  | nil =>
    rw [Format.readJsonMembers] at read
    split at read <;> cases read
    exact layout.gains_nil _
  | cons member rest ih =>
    rw [Format.readJsonMembers.eq_def] at read
    split at read
    case h_1 none => cases none
    case h_2 key value others next same =>
      cases same
      split at read
      case h_1 stored stores => exact layout.gains_cons_of_storeJson distinct stores (ih read)
      case h_2 => cases read
      case h_3 unstored =>
        have unnamed := layout.not_mem_names_of_storeJson unstored
        split at read
        · exact layout.gains_cons_of_not_mem unnamed (ih read)
        · cases read
    case h_3 => cases read

/-- What was gained from members or is assumed is told by the members. -/
theorem told_of_gains {members : List (Partial × Partial)} {values draft : Type} :
    (layout : Fields values draft) → (place : Nat) → {found : draft} → {contents : values} →
      layout.Gains members layout.blank found → layout.complete found = .ok contents →
        layout.Told (fun name _ => member? name members) place contents
  | .none, _, _, _, _, _ => trivial
  | .field name format absent hidden others, place, (found, filled), (value, contents), gains,
      complete => by
    obtain ⟨told, untold, further⟩ := gains
    simp only [Fields.complete] at complete
    split at complete
    case h_1 => cases complete
    case h_2 first here =>
      obtain ⟨_, rest, same⟩ := map_eq_ok_iff.mp complete
      cases same
      refine ⟨fun tree part => ?_, fun absent => ?_, others.told_of_gains (place + 1) further rest⟩
      · obtain ⟨-, content, read, rfl⟩ := told tree part
        cases here
        exact read
      · rw [untold absent] at here
        exact here

/-- The items of a row that is read tell its values. -/
theorem told_of_readJsonRow {record : String} {size : Nat} {closed : Bool} {all : List Partial}
    {values draft : Type} :
    (layout : Fields values draft) → {place : Nat} → {contents : values} →
      layout.readJsonRow record size place closed (all.drop place) = .ok contents →
        layout.Told (fun _ place => all[place]?) place contents
  | .none, _, _, _ => trivial
  | .field name format absent hidden others, place, (value, contents), read => by
    have first : (all.drop place).head? = all[place]? := List.head?_drop
    have further : (all.drop place).tail = all.drop (place + 1) := List.tail_drop
    simp only [readJsonRow] at read
    split at read
    case h_1 item rest same =>
      rw [same] at first further
      obtain rfl : rest = all.drop (place + 1) := further
      obtain ⟨_, here, read⟩ := bind_eq_ok_iff.mp read
      obtain ⟨_, row, same⟩ := bind_eq_ok_iff.mp read
      cases same
      refine ⟨fun tree part => ?_, fun absent => ?_, others.told_of_readJsonRow row⟩
      · cases first.trans part
        exact here
      · cases first.trans absent
    case h_2 same =>
      rw [same] at first further
      split at read
      case isFalse => cases read
      case isTrue =>
        split at read
        case h_2 => cases read
        case h_1 assumed =>
          obtain ⟨_, row, same⟩ := map_eq_ok_iff.mp read
          cases same
          have ends : [] = all.drop (place + 1) := further
          refine ⟨fun tree part => ?_, fun _ => rfl, others.told_of_readJsonRow (ends ▸ row)⟩
          cases first.trans part

end Fields

/-- A record that is read is made of what the parts of the tree tell. -/
theorem Format.told_of_record {α values draft : Type} {name : String} {layout : Fields values draft}
    {build : values → α} {parts : α → values} (distinct : layout.names.Nodup) {tree : Partial}
    {result : α} (read : (Format.record name layout build parts).readJson tree = .ok result) :
    ∃ contents, build contents = result ∧
      layout.Told (fun field place => tree.part? field place) 0 contents := by
  simp only [readJson] at read
  split at read
  case h_1 members closed =>
    obtain ⟨found, stored, read⟩ := bind_eq_ok_iff.mp read
    obtain ⟨contents, complete, same⟩ := bind_eq_ok_iff.mp read
    cases same
    have gains := Fields.gains_of_readJsonMembers distinct stored
    exact ⟨contents, rfl, layout.told_of_gains 0 gains (mapError_eq_ok_iff.mp complete)⟩
  case h_2 items closed =>
    obtain ⟨contents, row, same⟩ := bind_eq_ok_iff.mp read
    cases same
    exact ⟨contents, rfl, layout.told_of_readJsonRow row⟩
  case h_3 => cases read

end SchemaProjection
