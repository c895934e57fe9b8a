import SchemaProjection.Proofs.TypeText

/-!
# Faults point at the first offending character

Where the reader stops, what it has taken is the beginning of an expression: it can be written to
its end, whatever brackets are open (`Halts.completes`). And the reader stops there whatever follows
the character that it stops at (`Halts.beyond`), so no expression begins with that character too.
The one exception is an opening bracket of a suffix, for which the reader looks at the character
behind it. A fault therefore gives the first character with which no expression goes on, and the
number of bytes before it.
-/
namespace SchemaProjection.TypeExpr

open Text (isBlank skipBlank)

/-- The reader stops inside an expression, before what is left of a text. -/
def Halts (text stuck : List Char) : Prop := TypeExpr.read text = .error stuck

/-- The reader stops inside arguments, before what is left of a text. -/
def HaltsArguments (text stuck : List Char) : Prop := readArguments text = .error stuck

/-- The reader stops where a name is missing, or inside the arguments behind the name. -/
theorem halts_iff {text stuck : List Char} :
    Halts text stuck ↔
      (skipBlank text).takeWhile isNameChar = [] ∧ skipBlank text = stuck ∨
        (skipBlank text).takeWhile isNameChar ≠ [] ∧
          ∃ inner, behindName text = '<' :: inner ∧ HaltsArguments inner stuck := by
  rw [Halts, TypeExpr.read]
  by_cases named : (skipBlank text).takeWhile isNameChar = []
  · simp [named]
  · simp only [dif_neg named]
    split
    next inner following =>
      have following : behindName text = '<' :: inner := following
      cases halted : readArguments inner <;> simp [HaltsArguments, named, following, halted]
    next other =>
      have absent (inner) : behindName text ≠ '<' :: inner := other inner
      simp [named, absent]

/-- The reader stops inside one of the arguments, or behind one that neither a comma nor the closing
bracket follows. -/
theorem haltsArguments_iff {text stuck : List Char} :
    HaltsArguments text stuck ↔
      Halts text stuck ∨ ∃ first middle, Reads text first middle ∧
        ((∃ further, middle = ',' :: further ∧ HaltsArguments further stuck) ∨
          middle = stuck ∧ ∀ rest, middle ≠ ',' :: rest ∧ middle ≠ '>' :: rest) := by
  rw [HaltsArguments, readArguments]
  cases taken : TypeExpr.read text with
  | error halted => simp [Halts, Reads, taken]
  | ok front =>
    have settled : skipBlank front.rest = front.rest :=
      Reads.skipBlank_eq ⟨front, taken, rfl, rfl⟩
    obtain ⟨first, middle, shorter⟩ := front
    dsimp only at settled
    simp only [Halts, Reads, taken, reduceCtorEq, false_or, Except.ok.injEq, exists_eq_left']
    split
    next further following =>
      obtain rfl : middle = ',' :: further := settled.symm.trans following
      cases halted : readArguments further with
      | error place => simp [HaltsArguments, halted]
      | ok behind => simp [HaltsArguments, halted]
    next last following =>
      obtain rfl : middle = '>' :: last := settled.symm.trans following
      simp
    next noComma noClosing =>
      rw [settled] at noComma noClosing ⊢
      constructor
      · rintro ⟨rfl⟩
        exact ⟨_, _, ⟨rfl, rfl⟩, .inr ⟨rfl, fun rest => ⟨noComma rest, noClosing rest⟩⟩⟩
      · rintro ⟨_, _, ⟨rfl, rfl⟩, ⟨further, comma, -⟩ | ⟨rfl, -⟩⟩
        · exact absurd comma (noComma further)
        · rfl

mutual

/-- Where the reader stops inside an expression, the text before can be written to the end of
one. -/
theorem Halts.completes {text stuck : List Char} (halts : Halts text stuck) :
    ∃ front back type, text = front ++ stuck ∧ Written (front ++ back) type := by
  rcases halts_iff.mp halts with ⟨-, rfl⟩ | ⟨named, inner, following, halts⟩
  · obtain ⟨lead, leading, whole⟩ := Text.exists_blanks_append_skipBlank text
    have name : Written (TypeExpr.named "T").chars (.named "T") := by
      refine written_chars _ fun name listed => ?_
      obtain rfl : name = "T" := by simpa [names, namesOf, TypeExpr.named] using listed
      refine ⟨by simp, fun c held => ?_⟩
      obtain rfl : c = 'T' := by simpa using held
      decide
    exact ⟨lead, _, _, whole, name.lead leading⟩
  · obtain ⟨lead, gap, leading, between, parts⟩ := exists_parts_behindName text
    have := length_lt_of_behindName following
    obtain ⟨front, back, types, rfl, listed⟩ := halts.completes
    have written := Written.parts leading ⟨named, fun c => List.mem_takeWhile_imp⟩ between
      (.enclosed listed) (.done blanks_nil)
    refine ⟨lead ++ (skipBlank text).takeWhile isNameChar ++ gap ++ '<' :: front, back ++ ['>'], _,
      ?_, by simpa using written⟩
    rw [following] at parts
    simpa using parts
termination_by (text.length, 0)
decreasing_by exact Prod.Lex.left _ _ ‹_›

/-- Where the reader stops inside arguments, the text before can be written to the end of them. -/
theorem HaltsArguments.completes {text stuck : List Char} (halts : HaltsArguments text stuck) :
    ∃ front back types, text = front ++ stuck ∧ WrittenList (front ++ back) types := by
  rcases haltsArguments_iff.mp halts with
    halts | ⟨first, middle, reads, ⟨further, rfl, halts⟩ | ⟨rfl, -⟩⟩
  · obtain ⟨front, back, type, whole, written⟩ := halts.completes
    exact ⟨front, back, [type], whole, .last written⟩
  · obtain ⟨begun, whole, written⟩ := written_of_reads reads
    have := Nat.lt_of_succ_lt reads.shorter
    obtain ⟨front, back, types, rfl, listed⟩ := halts.completes
    exact ⟨begun ++ ',' :: front, back, first :: types, by simpa using whole,
      by simpa using WrittenList.more written listed⟩
  · obtain ⟨front, whole, written⟩ := written_of_reads reads
    exact ⟨front, [], [first], whole, .last (by simpa using written)⟩
termination_by (text.length, 1)
decreasing_by
  · exact Prod.Lex.right _ Nat.zero_lt_one
  · exact Prod.Lex.left _ _ ‹_›

end

/-- Characters that are dropped before a place are dropped whatever follows the character there. -/
theorem dropWhile_beyond {holds : Char → Bool} (front middle : List Char) {rest : List Char}
    {c : Char} (dropped : (front ++ c :: rest).dropWhile holds = middle ++ c :: rest)
    (other : List Char) :
    (front ++ c :: other).dropWhile holds = middle ++ c :: other ∧
      (front ++ c :: other).takeWhile holds = (front ++ c :: rest).takeWhile holds := by
  induction front with
  | nil =>
    cases taken : holds c with
    | true =>
      have length := Text.dropWhile_length_le holds rest
      rw [List.nil_append, List.dropWhile_cons_of_pos taken] at dropped
      rw [dropped, List.length_append, List.length_cons] at length
      omega
    | false =>
      obtain rfl : middle = [] := by simpa [taken] using dropped
      simp [taken]
  | cons first front ih =>
    cases taken : holds first with
    | true =>
      simp only [List.cons_append, List.dropWhile_cons_of_pos taken,
        List.takeWhile_cons_of_pos taken] at dropped ⊢
      exact ⟨(ih dropped).1, congrArg _ (ih dropped).2⟩
    | false =>
      have whole : first :: front ++ c :: rest = middle ++ c :: rest := by
        simpa [taken] using dropped
      obtain rfl := List.append_cancel_right whole
      simp [taken]

/-- Blanks before a place are skipped whatever follows the character there. -/
theorem skipBlank_beyond (front middle : List Char) {rest : List Char} {c : Char}
    (skipped : skipBlank (front ++ c :: rest) = middle ++ c :: rest) (other : List Char) :
    skipBlank (front ++ c :: other) = middle ++ c :: other :=
  (dropWhile_beyond front middle skipped other).1

/-- A place behind the leading name stays behind it whatever follows the character there. -/
theorem behindName_beyond (front middle : List Char) {rest : List Char} {c : Char}
    (behind : behindName (front ++ c :: rest) = middle ++ c :: rest) (other : List Char) :
    behindName (front ++ c :: other) = middle ++ c :: other ∧
      (skipBlank (front ++ c :: other)).takeWhile isNameChar =
        (skipBlank (front ++ c :: rest)).takeWhile isNameChar := by
  have last : c :: rest <:+ behindName (front ++ c :: rest) := ⟨middle, behind.symm⟩
  have named := last.trans (List.dropWhile_suffix isBlank)
  have begun := named.trans (List.dropWhile_suffix isNameChar)
  obtain ⟨start, begun⟩ := begun
  rw [← begun] at named
  obtain ⟨afterName, named⟩ := named
  rw [behindName, ← begun, ← named] at behind
  obtain ⟨endsSame, nameSame⟩ := dropWhile_beyond start afterName named.symm other
  rw [behindName, skipBlank_beyond front start begun.symm other, ← begun, endsSame]
  exact ⟨skipBlank_beyond afterName middle behind other, nameSame⟩

/-- A place behind arguments, or behind a name without arguments, stays there whatever follows the
character at it. -/
theorem ReadsApplied.beyond {text suffixes rest : List Char} {types : List TypeExpr} {c : Char}
    (reads : ReadsApplied text types (suffixes ++ c :: rest)) (other : List Char) :
    ∃ middle, text = middle ++ c :: rest ∧
      ReadsApplied (middle ++ c :: other) types (suffixes ++ c :: other) := by
  rcases reads with ⟨inner, rfl, reads⟩ | ⟨unbracketed, rfl, rfl⟩
  · obtain ⟨front, rfl, listed⟩ := writtenList_of_readsArguments reads
    exact ⟨'<' :: front ++ '>' :: suffixes, by simp, .inl ⟨_, by simp,
      readsArguments_of_writtenList (suffixes ++ c :: other) listed⟩⟩
  · refine ⟨suffixes, rfl, .inr ⟨fun inner bracketed => ?_, rfl, rfl⟩⟩
    cases suffixes with
    | nil => exact unbracketed rest (by rw [(List.cons.inj bracketed).1]; rfl)
    | cons first suffixes =>
      exact unbracketed (suffixes ++ c :: rest) (by rw [(List.cons.inj bracketed).1]; rfl)

/-- An expression that ends before a character ends there whatever follows the character, unless it
is the opening bracket of a suffix. -/
theorem Reads.beyond {front rest : List Char} {type : TypeExpr} {c : Char}
    (reads : Reads (front ++ c :: rest) type (c :: rest)) (single : c ≠ '[') (other : List Char) :
    Reads (front ++ c :: other) type (c :: other) := by
  have settled : skipBlank (c :: other) = c :: other :=
    skipBlank_beyond [] [] reads.skipBlank_eq other
  obtain ⟨named, arguments, tail, applied, rfl, left⟩ := reads_iff.mp reads
  obtain ⟨suffixes, whole, written⟩ := writtenSuffixes_of_readSuffixes tail
  rw [left] at whole
  rw [whole] at applied
  obtain ⟨middle, behind, applied⟩ := applied.beyond other
  obtain ⟨behindSame, nameSame⟩ := behindName_beyond front middle behind other
  have counted := written.read_before settled fun back => by simp [single]
  rw [reads_iff, behindSame, nameSame]
  exact ⟨named, arguments, _, applied, by rw [counted], by rw [counted]⟩

mutual

/-- The reader stops inside an expression at the same character whatever follows it, unless it is
the opening bracket of a suffix. -/
theorem Halts.beyond {front rest : List Char} {c : Char}
    (halts : Halts (front ++ c :: rest) (c :: rest)) (single : c ≠ '[') (other : List Char) :
    Halts (front ++ c :: other) (c :: other) := by
  rcases halts_iff.mp halts with ⟨unnamed, skipped⟩ | ⟨named, inner, following, halts⟩
  · have stops : skipBlank (front ++ c :: other) = c :: other :=
      skipBlank_beyond front [] skipped other
    rw [skipped] at unnamed
    refine halts_iff.mpr (.inl ⟨?_, stops⟩)
    rw [stops]
    simpa [List.takeWhile_cons] using unnamed
  · have := length_lt_of_behindName following
    obtain ⟨inside, -, -, rfl, -⟩ := halts.completes
    obtain ⟨behindSame, nameSame⟩ := behindName_beyond front ('<' :: inside) following other
    exact halts_iff.mpr
      (.inr ⟨by rwa [nameSame], inside ++ c :: other, behindSame, halts.beyond single other⟩)
termination_by ((front ++ c :: rest).length, 0)
decreasing_by exact Prod.Lex.left _ _ ‹_›

/-- The reader stops inside arguments at the same character whatever follows it, unless it is the
opening bracket of a suffix. -/
theorem HaltsArguments.beyond {front rest : List Char} {c : Char}
    (halts : HaltsArguments (front ++ c :: rest) (c :: rest)) (single : c ≠ '[')
    (other : List Char) : HaltsArguments (front ++ c :: other) (c :: other) := by
  rcases haltsArguments_iff.mp halts with
    halts | ⟨first, middle, reads, ⟨further, rfl, halts⟩ | ⟨rfl, neither⟩⟩
  · exact haltsArguments_iff.mpr (.inl (halts.beyond single other))
  · have := Nat.lt_of_succ_lt reads.shorter
    obtain ⟨inside, -, -, rfl, -⟩ := halts.completes
    have later := halts.beyond single other
    obtain ⟨begun, whole, written⟩ := written_of_reads reads
    obtain rfl : front = begun ++ ',' :: inside :=
      List.append_cancel_right (by simpa using whole)
    have comma : Stops (',' :: (inside ++ c :: other)) := by
      rintro _ ⟨rfl⟩
      exact .inl rfl
    have ends := reads_of_written comma written
    rw [List.append_assoc, List.cons_append]
    exact haltsArguments_iff.mpr (.inr ⟨first, _, ends, .inl ⟨_, rfl, later⟩⟩)
  · refine haltsArguments_iff.mpr (.inr ⟨first, _, reads.beyond single other, .inr ⟨rfl, ?_⟩⟩)
    intro back
    obtain ⟨noComma, noClosing⟩ := neither rest
    exact ⟨fun comma => noComma (by rw [(List.cons.inj comma).1]),
      fun closing => noClosing (by rw [(List.cons.inj closing).1])⟩
termination_by ((front ++ c :: rest).length, 1)
decreasing_by
  · exact Prod.Lex.right _ Nat.zero_lt_one
  · exact Prod.Lex.left _ _ ‹_›

end

/-- The reader stops before what is left of a text: inside an expression, or behind one that does
not go on to the end. -/
def StopsAt (text stuck : List Char) : Prop :=
  Halts text stuck ∨ stuck ≠ [] ∧ ∃ type, Reads text type stuck

/-- The text before the place where the reader stops can be written to the end of an expression. -/
theorem StopsAt.completes {text stuck : List Char} (stops : StopsAt text stuck) :
    ∃ front back type, text = front ++ stuck ∧ Written (front ++ back) type := by
  rcases stops with halts | ⟨-, type, reads⟩
  · exact halts.completes
  · obtain ⟨front, whole, written⟩ := written_of_reads reads
    exact ⟨front, [], type, whole, by simpa using written⟩

/-- The reader stops at the same character whatever follows it, unless it is the opening bracket of
a suffix. -/
theorem StopsAt.beyond {front rest : List Char} {c : Char}
    (stops : StopsAt (front ++ c :: rest) (c :: rest)) (single : c ≠ '[') (other : List Char) :
    StopsAt (front ++ c :: other) (c :: other) := by
  rcases stops with halts | ⟨-, type, reads⟩
  · exact .inl (halts.beyond single other)
  · exact .inr ⟨List.cons_ne_nil _ _, type, reads.beyond single other⟩

/-- Where the reader stops in a text that is not blank, there is the fault. -/
theorem StopsAt.parse_eq {input : String} {stuck : List Char} (unblank : ¬Blanks input.toList)
    (stops : StopsAt input.toList stuck) : parse input = .error (.at input stuck) := by
  rcases stops with halts | ⟨left, type, reads⟩
  · exact parse_of_stuck unblank halts
  · rw [parse_of_reads unblank reads, if_neg left]

/-- A fault in a text that is not blank is where the reader stops. -/
theorem exists_stopsAt_of_parse {input : String} {fault : Fault} (unblank : ¬Blanks input.toList)
    (failed : parse input = .error fault) :
    ∃ stuck, StopsAt input.toList stuck ∧ fault = .at input stuck := by
  cases taken : TypeExpr.read input.toList with
  | error stuck =>
    rw [parse_of_stuck unblank taken] at failed
    exact ⟨stuck, .inl taken, (Except.error.inj failed).symm⟩
  | ok front =>
    have reads : Reads input.toList front.value front.rest := ⟨front, taken, rfl, rfl⟩
    rw [parse_of_reads unblank reads] at failed
    split at failed
    next => cases failed
    next left => exact ⟨front.rest, .inr ⟨left, _, reads⟩, (Except.error.inj failed).symm⟩

/-- The bytes of a text are those of its parts. -/
theorem byteLength_append (front back : List Char) :
    byteLength (front ++ back) = byteLength front + byteLength back := by
  rw [byteLength, String.ofList_append, String.utf8ByteSize_append]
  rfl

/-- A text is the beginning of an expression: some text behind it completes it. -/
def Begins (text : String) : Prop := ∃ suffix type, parse (text ++ suffix) = .ok type

/-- What can be written to the end of an expression is the beginning of one. -/
theorem Written.begins {front back : List Char} {type : TypeExpr}
    (written : Written (front ++ back) type) : Begins (String.ofList front) :=
  ⟨String.ofList back, type, by rwa [parse_eq_ok_iff, ← String.ofList_append, String.toList_ofList]⟩

/-- A fault points at the first offending character. In a text that is not blank and no expression,
either a character is found of which the text before is the beginning of an expression, and unless
the character is the opening bracket of a suffix, no expression begins with that text and the
character; the offset is the number of bytes before it. Or the text ends too early, and is the
beginning of an expression itself. The fault gives the whole text. -/
theorem parse_fault_at_first_offender {input : String} {fault : Fault}
    (unblank : ¬Blanks input.toList) (failed : parse input = .error fault) :
    (∃ front found back,
        fault = .unexpected found front.utf8ByteSize input ∧
          input = front ++ String.singleton found ++ back ∧ Begins front ∧
          (found ≠ '[' → ¬Begins (front ++ String.singleton found))) ∨
      fault = .unterminated input ∧ Begins input := by
  obtain ⟨stuck, stops, rfl⟩ := exists_stopsAt_of_parse unblank failed
  obtain ⟨front, back, type, whole, written⟩ := stops.completes
  cases stuck with
  | nil =>
    rw [List.append_nil] at whole
    have begins := written.begins
    rw [← whole, String.ofList_toList] at begins
    exact .inr ⟨rfl, begins⟩
  | cons found rest =>
    have offset : input.utf8ByteSize - byteLength (found :: rest) =
        (String.ofList front).utf8ByteSize := by
      have bytes : input.utf8ByteSize = byteLength (front ++ found :: rest) := by
        rw [← whole, byteLength, String.ofList_toList]
      rw [bytes, byteLength_append, Nat.add_sub_cancel]
      rfl
    refine .inl ⟨String.ofList front, found, String.ofList rest, ?_, ?_, written.begins, ?_⟩
    · rw [← offset]
      rfl
    · rw [← String.toList_inj, whole]
      simp
    · rintro single ⟨suffix, other, parsed⟩
      have chars : (String.ofList front ++ String.singleton found ++ suffix).toList =
          front ++ found :: suffix.toList := by simp
      rw [whole] at stops
      have further : StopsAt (String.ofList front ++ String.singleton found ++ suffix).toList
          (found :: suffix.toList) := by
        rw [chars]
        exact stops.beyond single suffix.toList
      rw [further.parse_eq (parse_eq_ok_iff.mp parsed).not_blanks] at parsed
      cases parsed

/-- A closing bracket is found where a name is missing, behind three bytes with which expressions
begin; without it the text ends too early. -/
theorem parse_fault_at_closing :
    ¬Blanks "é<>".toList ∧ parse "é<>" = .error (.unexpected '>' 3 "é<>") ∧
      (∃ front back, "é<>" = front ++ ">" ++ back ∧ front.utf8ByteSize = 3 ∧ Begins front ∧
        ¬Begins (front ++ ">")) ∧
      ¬Blanks "é<".toList ∧ parse "é<" = .error (.unterminated "é<") ∧ Begins "é<" := by
  have inside : HaltsArguments ['>'] ['>'] :=
    haltsArguments_iff.mpr (.inl (halts_iff.mpr (.inl ⟨by decide, by decide⟩)))
  have atEnd : HaltsArguments [] [] :=
    haltsArguments_iff.mpr (.inl (halts_iff.mpr (.inl ⟨by decide, by decide⟩)))
  have closed : ¬Blanks "é<>".toList := fun blank => absurd (blank '<' (by simp)) (by decide)
  have opened : ¬Blanks "é<".toList := fun blank => absurd (blank '<' (by simp)) (by decide)
  have found : parse "é<>" = .error (.unexpected '>' 3 "é<>") :=
    parse_of_stuck closed
      (halts_iff.mpr (.inr ⟨by decide +kernel, ['>'], by decide +kernel, inside⟩))
  have ended : parse "é<" = .error (.unterminated "é<") :=
    parse_of_stuck opened (halts_iff.mpr (.inr ⟨by decide +kernel, [], by decide +kernel, atEnd⟩))
  refine ⟨closed, found, ?_, opened, ended, ?_⟩
  · rcases parse_fault_at_first_offender closed found with
      ⟨front, c, back, same, whole, begins, never⟩ | ⟨other, -⟩
    · obtain ⟨rfl, offset, -⟩ := Fault.unexpected.inj same
      exact ⟨front, back, whole, offset.symm, begins, never (by decide)⟩
    · cases other
  · rcases parse_fault_at_first_offender opened ended with ⟨_, _, _, other, -⟩ | ⟨-, begins⟩
    · cases other
    · exact begins

end SchemaProjection.TypeExpr
