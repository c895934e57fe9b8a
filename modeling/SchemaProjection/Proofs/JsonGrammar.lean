import SchemaProjection.Proofs.JsonTokens

/-!
# The grammar of JSON values

Which tokens spell a value without a fault (`Partial.Spells`), stated apart from how they are
read: a value is read from the front of tokens exactly when tokens that spell it stand there
(`Partial.readsValue_iff`). So no value is spelled by the beginning of what spells another one,
and it is known where a value ends (`Partial.Spells.unambiguous`). An array or object ends in the
bracket that closes it (`Partial.Spells.closed`).
-/
namespace SchemaProjection.Json.Partial

mutual

/-- Tokens that spell a value. -/
inductive Spells : List Token → Partial → Prop
  /-- The missing value. -/
  | null : Spells [.null] .null
  /-- A truth value. -/
  | bool (value : Bool) : Spells [.bool value] (.bool value)
  /-- A number. -/
  | number (value : Number) : Spells [.number value] (.number value)
  /-- A text. -/
  | text (content : Option String) : Spells [.text content] (.text content)
  /-- An array without items. -/
  | emptyArray : Spells [.openArray, .closeArray] (.array [] true)
  /-- An array of items. -/
  | array {tokens : List Token} {items : List Partial} (inside : SpellsItems tokens items) :
    Spells (.openArray :: tokens) (.array items true)
  /-- An object without members. -/
  | emptyObject : Spells [.openObject, .closeObject] (.object [] true)
  /-- An object of members. -/
  | object {tokens : List Token} {members : List (Partial × Partial)}
    (inside : SpellsMembers tokens members) :
    Spells (.openObject :: tokens) (.object members true)

/-- Tokens that spell items and the bracket that closes their array. -/
inductive SpellsItems : List Token → List Partial → Prop
  /-- The last item. -/
  | last {tokens : List Token} {item : Partial} (first : Spells tokens item) :
    SpellsItems (tokens ++ [.closeArray]) [item]
  /-- An item before others. -/
  | more {tokens behind : List Token} {item : Partial} {items : List Partial}
    (first : Spells tokens item) (further : SpellsItems behind items) :
    SpellsItems (tokens ++ .comma :: behind) (item :: items)

/-- Tokens that spell members and the bracket that closes their object. -/
inductive SpellsMembers : List Token → List (Partial × Partial) → Prop
  /-- The last member. -/
  | last {key : Option String} {tokens : List Token} {value : Partial}
    (first : Spells tokens value) :
    SpellsMembers (.text key :: .colon :: (tokens ++ [.closeObject])) [(.text key, value)]
  /-- A member before others. -/
  | more {key : Option String} {tokens behind : List Token} {value : Partial}
    {members : List (Partial × Partial)} (first : Spells tokens value)
    (further : SpellsMembers behind members) :
    SpellsMembers (.text key :: .colon :: (tokens ++ .comma :: behind))
      ((.text key, value) :: members)

end

variable {tokens rest : List Token} {value : Partial} {items : List Partial}
  {members : List (Partial × Partial)}

/-- A value begins with no closing bracket. -/
theorem Spells.ne_close (spells : Spells tokens value) (behind rest : List Token) :
    tokens ++ behind ≠ .closeArray :: rest := by
  cases spells <;> simp

/-- Items begin with no closing bracket. -/
theorem SpellsItems.ne_close (spells : SpellsItems tokens items) (behind rest : List Token) :
    tokens ++ behind ≠ .closeArray :: rest := by
  cases spells with
  | last first | more first _ =>
    rw [List.append_assoc]
    exact first.ne_close _ rest

mutual

/-- A value is read from the tokens that spell it. -/
theorem Spells.reads {tokens : List Token} {value : Partial} (spells : Spells tokens value)
    (rest : List Token) : ReadsValue (tokens ++ rest) value rest := by
  cases spells with
  | null | bool | number | text | emptyArray | emptyObject =>
    exact ⟨by simp only [List.cons_append, List.nil_append, List.length_cons]; omega,
      by simp [readValue]⟩
  | array inside => exact (inside.reads rest).array fun _ => inside.ne_close rest _
  | object inside =>
    refine (inside.reads rest).object fun _ => ?_
    cases inside <;> nofun

/-- Items are read from the tokens that spell them. -/
theorem SpellsItems.reads {tokens : List Token} {items : List Partial}
    (spells : SpellsItems tokens items) (rest : List Token) :
    ReadsItems (tokens ++ rest) items rest := by
  cases spells with
  | last first =>
    rw [List.append_assoc]
    exact (first.reads _).last
  | more first further =>
    rw [List.append_assoc]
    exact (first.reads _).more (further.reads rest)

/-- Members are read from the tokens that spell them. -/
theorem SpellsMembers.reads {tokens : List Token} {members : List (Partial × Partial)}
    (spells : SpellsMembers tokens members) (rest : List Token) :
    ReadsMembers (tokens ++ rest) members rest := by
  cases spells with
  | last first =>
    simp only [List.cons_append, List.append_assoc]
    exact (first.reads _).lastMember
  | more first further =>
    simp only [List.cons_append, List.append_assoc]
    exact (first.reads _).moreMembers (further.reads rest)

end

/-- What is left behind a part of the tokens is left behind that part alone. -/
theorem exists_of_widened {part : List Token} {after : After part}
    {widen : ∀ left : { rest : List Token // rest.length < part.length },
      left.1.length < tokens.length} {shorter : rest.length < tokens.length}
    (same : (Option.map (fun left => ⟨left.1, widen left⟩) after : After tokens) =
      some ⟨rest, shorter⟩) :
    ∃ still, after = some ⟨rest, still⟩ := by
  obtain ⟨⟨_, still⟩, found, left⟩ := Option.map_eq_some_iff.mp same
  cases left
  exact ⟨still, found⟩

mutual

/-- The tokens from which a value is read spell it. -/
theorem ReadsValue.spells {tokens rest : List Token} {value : Partial}
    (reads : ReadsValue tokens value rest) :
    ∃ used, tokens = used ++ rest ∧ Spells used value := by
  obtain ⟨shorter, read⟩ := reads
  rw [readValue.eq_def] at read
  split at read
  case h_1 | h_2 | h_3 | h_4 | h_5 | h_7 =>
    cases read
    exact ⟨_, rfl, by constructor⟩
  case h_6 inside _ =>
    obtain ⟨rfl, after⟩ := Prod.mk.inj read
    obtain ⟨still, found⟩ := exists_of_widened after
    have items : ReadsItems inside (readItems inside).1 rest := ⟨still, Prod.ext rfl found⟩
    obtain ⟨used, rfl, spells⟩ := items.spells
    rw [found]
    exact ⟨_, rfl, .array spells⟩
  case h_8 inside _ =>
    obtain ⟨rfl, after⟩ := Prod.mk.inj read
    obtain ⟨still, found⟩ := exists_of_widened after
    have members : ReadsMembers inside (readMembers inside).1 rest := ⟨still, Prod.ext rfl found⟩
    obtain ⟨used, rfl, spells⟩ := members.spells
    rw [found]
    exact ⟨_, rfl, .object spells⟩
  case h_9 => cases read
termination_by (tokens.length, 0)

/-- The tokens from which items are read spell them. -/
theorem ReadsItems.spells {tokens rest : List Token} {items : List Partial}
    (reads : ReadsItems tokens items rest) :
    ∃ used, tokens = used ++ rest ∧ SpellsItems used items := by
  obtain ⟨shorter, read⟩ := reads
  rw [readItems.eq_def] at read
  split at read
  case h_1 => cases read
  case h_2 item behind fits first =>
    have value : ReadsValue tokens item (.closeArray :: behind) := ⟨fits, first⟩
    obtain ⟨used, rfl, spells⟩ := value.spells
    cases read
    exact ⟨used ++ [.closeArray], by simp, .last spells⟩
  case h_3 item behind fits first =>
    have value : ReadsValue tokens item (.comma :: behind) := ⟨fits, first⟩
    obtain ⟨used, rfl, spells⟩ := value.spells
    obtain ⟨rfl, after⟩ := Prod.mk.inj read
    obtain ⟨still, found⟩ := exists_of_widened after
    have further : ReadsItems behind (readItems behind).1 rest := ⟨still, Prod.ext rfl found⟩
    obtain ⟨others, rfl, inside⟩ := further.spells
    exact ⟨used ++ .comma :: others, by simp, .more spells inside⟩
  case h_4 => cases read
termination_by (tokens.length, 1)

/-- The tokens from which members are read spell them. -/
theorem ReadsMembers.spells {tokens rest : List Token} {members : List (Partial × Partial)}
    (reads : ReadsMembers tokens members rest) :
    ∃ used, tokens = used ++ rest ∧ SpellsMembers used members := by
  obtain ⟨shorter, read⟩ := reads
  rw [readMembers.eq_def] at read
  split at read
  case h_1 key following =>
    dsimp only at read
    split at read
    case h_1 => cases read
    case h_2 item behind fits first =>
      have value : ReadsValue following item (.closeObject :: behind) := ⟨fits, first⟩
      obtain ⟨used, rfl, spells⟩ := value.spells
      cases read
      exact ⟨.text key :: .colon :: (used ++ [.closeObject]), by simp, .last spells⟩
    case h_3 item behind fits first =>
      have value : ReadsValue following item (.comma :: behind) := ⟨fits, first⟩
      obtain ⟨used, rfl, spells⟩ := value.spells
      obtain ⟨rfl, after⟩ := Prod.mk.inj read
      obtain ⟨still, found⟩ := exists_of_widened after
      have further : ReadsMembers behind (readMembers behind).1 rest :=
        ⟨still, Prod.ext rfl found⟩
      obtain ⟨others, rfl, inside⟩ := further.spells
      exact ⟨.text key :: .colon :: (used ++ .comma :: others), by simp, .more spells inside⟩
    case h_4 => cases read
  case h_2 => cases read
  case h_3 => cases read
termination_by (tokens.length, 1)

end

/-- A value is read from the front of tokens exactly when tokens that spell it stand there. -/
theorem readsValue_iff :
    ReadsValue tokens value rest ↔ ∃ used, tokens = used ++ rest ∧ Spells used value := by
  constructor
  · exact ReadsValue.spells
  · rintro ⟨used, rfl, spells⟩
    exact spells.reads rest

/-- A text holds a value alone exactly when its tokens spell the value. -/
theorem ofText_eq_iff {text : String} :
    ofText text = (value, true) ↔ Spells (Json.tokens text.toList) value := by
  constructor
  · intro alone
    rw [ofText] at alone
    split at alone
    case h_1 value shorter found =>
      cases alone
      have reads : ReadsValue (Json.tokens text.toList) value [] := ⟨shorter, found⟩
      obtain ⟨used, divided, spells⟩ := reads.spells
      rwa [divided, List.append_nil]
    case h_2 => cases alone
  · intro spells
    have reads := spells.reads []
    rw [List.append_nil] at reads
    exact reads.ofText

/-- From the front of tokens one value is read. -/
theorem ReadsValue.unique {other : Partial} {behind : List Token}
    (one : ReadsValue tokens value rest) (two : ReadsValue tokens other behind) :
    value = other ∧ rest = behind := by
  obtain ⟨_, first⟩ := one
  obtain ⟨_, second⟩ := two
  rw [second] at first
  cases first
  exact ⟨rfl, rfl⟩

/-- What spells a value does not begin what spells another one. -/
theorem Spells.unambiguous {other : Partial} {others behind : List Token}
    (one : Spells tokens value) (two : Spells others other)
    (same : tokens ++ rest = others ++ behind) :
    tokens = others ∧ rest = behind ∧ value = other := by
  have first := one.reads rest
  rw [same] at first
  obtain ⟨rfl, rfl⟩ := first.unique (two.reads behind)
  exact ⟨List.append_cancel_right same, rfl, rfl⟩

mutual

/-- No fault is in a value. -/
theorem Spells.whole {tokens : List Token} {value : Partial} (spells : Spells tokens value) :
    Token.fault ∉ tokens := by
  cases spells with
  | null | bool | number | text | emptyArray | emptyObject => simp
  | array inside => simpa using inside.whole
  | object inside => simpa using inside.whole

/-- No fault is in items. -/
theorem SpellsItems.whole {tokens : List Token} {items : List Partial}
    (spells : SpellsItems tokens items) : Token.fault ∉ tokens := by
  cases spells with
  | last first => simpa using first.whole
  | more first further => simpa using ⟨first.whole, further.whole⟩

/-- No fault is in members. -/
theorem SpellsMembers.whole {tokens : List Token} {members : List (Partial × Partial)}
    (spells : SpellsMembers tokens members) : Token.fault ∉ tokens := by
  cases spells with
  | last first => simpa using first.whole
  | more first further => simpa using ⟨first.whole, further.whole⟩

end

/-- Items end in the bracket that closes their array. -/
theorem SpellsItems.getLast? {tokens : List Token} {items : List Partial}
    (spells : SpellsItems tokens items) : tokens.getLast? = some .closeArray := by
  match spells with
  | .last _ => simp
  | .more _ further => simp [List.getLast?_cons, further.getLast?]

/-- Members end in the bracket that closes their object. -/
theorem SpellsMembers.getLast? {tokens : List Token} {members : List (Partial × Partial)}
    (spells : SpellsMembers tokens members) : tokens.getLast? = some .closeObject := by
  match spells with
  | .last _ => simp [List.getLast?_cons]
  | .more _ further => simp [List.getLast?_cons, further.getLast?]

/-- What spells an array ends in a closing bracket. -/
theorem Spells.closed_array {closed : Bool} (spells : Spells tokens (.array items closed)) :
    Token.Closed tokens := by
  refine ⟨spells.whole, ?_⟩
  cases spells with
  | emptyArray => simp [Token.Closes]
  | array inside => simp [List.getLast?_cons, inside.getLast?, Token.Closes]

/-- What spells an object ends in a closing bracket. -/
theorem Spells.closed_object {closed : Bool} (spells : Spells tokens (.object members closed)) :
    Token.Closed tokens := by
  refine ⟨spells.whole, ?_⟩
  cases spells with
  | emptyObject => simp [Token.Closes]
  | object inside => simp [List.getLast?_cons, inside.getLast?, Token.Closes]

end SchemaProjection.Json.Partial
