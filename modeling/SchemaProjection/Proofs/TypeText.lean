import SchemaProjection.Proofs.TypeGrammar

/-!
# Canonical texts of type expressions

The canonical text of an expression is one of the ways in which the expression is written, if all
its names are names (`written_chars`); and what is written has no other names, so no other
expression is read back from its canonical text. On expressions that have been read the canonical
text is therefore a faithful name.
-/
namespace SchemaProjection.TypeExpr

mutual

/-- All names in an expression. -/
def names : TypeExpr → List String
  | ⟨name, arguments, _⟩ => name :: namesOf arguments

/-- All names in a list of expressions. -/
def namesOf : List TypeExpr → List String
  | [] => []
  | first :: rest => names first ++ namesOf rest

end

mutual

/-- What is written as an expression has names only. -/
theorem Written.isName : ∀ {text : List Char} {type : TypeExpr}, Written text type →
    ∀ name ∈ type.names, IsName name.toList
  | _, _, .parts _ named _ applied _, name, listed => by
    rw [names, List.mem_cons] at listed
    rcases listed with rfl | inner
    · rwa [String.toList_ofList]
    · exact applied.isName name inner

/-- What is written as arguments has names only. -/
theorem WrittenArguments.isName : ∀ {text : List Char} {types : List TypeExpr},
    WrittenArguments text types → ∀ name ∈ namesOf types, IsName name.toList
  | _, _, .none, _, listed => by simp [namesOf] at listed
  | _, _, .enclosed list, name, listed => list.isName name listed

/-- What is written as expressions with commas between them has names only. -/
theorem WrittenList.isName : ∀ {text : List Char} {types : List TypeExpr},
    WrittenList text types → ∀ name ∈ namesOf types, IsName name.toList
  | _, _, .last only, name, listed => by
    simp only [namesOf, List.append_nil] at listed
    exact only.isName name listed
  | _, _, .more first further, name, listed => by
    rw [namesOf, List.mem_append] at listed
    rcases listed with here | behind
    · exact first.isName name here
    · exact further.isName name behind

end

/-- Blanks may stand before an expression. -/
theorem Written.lead {blanks text : List Char} {type : TypeExpr} (blank : Blanks blanks)
    (written : Written text type) : Written (blanks ++ text) type := by
  cases written with
  | @parts lead name gap inner tail _ _ leading named between applied suffixes =>
    have leading : Blanks (blanks ++ lead) := by
      intro c held
      exact (List.mem_append.mp held).elim (blank c) (leading c)
    simpa only [List.append_assoc] using Written.parts leading named between applied suffixes

/-- Nothing is a run of blanks. -/
theorem blanks_nil : Blanks [] := nofun

/-- Suffixes are written without blanks. -/
theorem writtenSuffixes_suffixes (dimensions : Nat) :
    WrittenSuffixes (suffixes dimensions) dimensions := by
  induction dimensions with
  | zero => exact .done blanks_nil
  | succ dimensions ih => exact .more blanks_nil ih

mutual

/-- The canonical form of an expression with names only is written as the expression. -/
theorem written_chars : ∀ type : TypeExpr, (∀ name ∈ type.names, IsName name.toList) →
    Written type.chars type
  | ⟨name, arguments, dimensions⟩, named => by
    have written : Written ([] ++ name.toList ++ [] ++ argumentChars arguments ++
        suffixes dimensions) ⟨String.ofList name.toList, arguments, dimensions⟩ :=
      .parts blanks_nil (named name (by simp [names])) blanks_nil
        (writtenArguments_argumentChars arguments fun inner listed =>
          named inner (by simp [names, listed]))
        (writtenSuffixes_suffixes dimensions)
    simpa [chars] using written

/-- The canonical form of an argument list is written as the arguments. -/
theorem writtenArguments_argumentChars : ∀ types : List TypeExpr,
    (∀ name ∈ namesOf types, IsName name.toList) →
    WrittenArguments (argumentChars types) types
  | [], _ => .none
  | first :: rest, named => by
    have written := written_chars first fun name listed => named name (by simp [namesOf, listed])
    obtain ⟨inner, closed, list⟩ := writtenList_furtherChars rest
      (fun name listed => named name (by simp [namesOf, listed])) written
    rw [argumentChars, closed]
    exact .enclosed list

/-- The canonical form of further arguments is written behind an argument, and closed. -/
theorem writtenList_furtherChars : ∀ types : List TypeExpr,
    (∀ name ∈ namesOf types, IsName name.toList) →
    ∀ {text : List Char} {type : TypeExpr}, Written text type →
      ∃ inner, text ++ furtherChars types = inner ++ ['>'] ∧ WrittenList inner (type :: types)
  | [], _, text, _, written => ⟨text, rfl, .last written⟩
  | next :: rest, named, text, _, written => by
    have space : Blanks [' '] := by
      intro c held
      obtain rfl := List.mem_singleton.mp held
      decide
    have behind := (written_chars next fun name listed =>
      named name (by simp [namesOf, listed])).lead space
    obtain ⟨inner, closed, list⟩ := writtenList_furtherChars rest
      (fun name listed => named name (by simp [namesOf, listed])) behind
    refine ⟨text ++ ',' :: inner, ?_, .more written list⟩
    rw [furtherChars, List.append_assoc, List.cons_append, ← closed]
    simp

end

/-- An expression is read back from its canonical text exactly when its names are names. -/
theorem parse_text_eq_ok_iff {type : TypeExpr} :
    parse type.text = .ok type ↔ ∀ name ∈ type.names, IsName name.toList := by
  rw [parse_eq_ok_iff, text, String.toList_ofList]
  exact ⟨Written.isName, written_chars type⟩

/-- What has been read is read back from its canonical text. -/
theorem parse_text_of_parse {input : String} {type : TypeExpr} (parsed : parse input = .ok type) :
    parse type.text = .ok type :=
  parse_text_eq_ok_iff.mpr (parse_eq_ok_iff.mp parsed).isName

/-- Canonical texts and expressions determine each other. Any expression is read back from its
canonical text exactly when every name in it is a run of one or more name characters; so what has
been read from some text is read back, and two expressions that have been read are the same exactly
when their canonical texts are. -/
theorem text_identifies_parsed :
    (∀ type : TypeExpr,
        parse type.text = .ok type ↔ ∀ name ∈ type.names, IsName name.toList) ∧
      (∀ input type, parse input = .ok type → parse type.text = .ok type) ∧
      ∀ leftInput rightInput left right,
        parse leftInput = .ok left → parse rightInput = .ok right →
          (left = right ↔ left.text = right.text) := by
  refine ⟨fun _ => parse_text_eq_ok_iff, fun _ _ => parse_text_of_parse, ?_⟩
  intro leftInput rightInput left right leftParsed rightParsed
  refine ⟨congrArg text, fun same => ?_⟩
  have readBack := parse_text_of_parse leftParsed
  rw [same, parse_text_of_parse rightParsed] at readBack
  exact (Except.ok.inj readBack).symm

end SchemaProjection.TypeExpr
