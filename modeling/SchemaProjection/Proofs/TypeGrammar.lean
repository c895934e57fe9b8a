import Mathlib.Data.List.DropRight
import SchemaProjection.TypeExpr.Parser

/-!
# The grammar of type expressions

`Written` is the grammar on its own: a name, arguments in angle brackets or none, and array
suffixes, with blanks around each part. `Reads` says what the reader takes from the front of a
text, one step at a time. What is read is written in this way (`written_of_reads`), and what is
written is read back up to a comma, a closing bracket or the end, where no expression goes on
(`reads_of_written`). Since the reader gives one result, no text is written as two expressions.
-/
namespace SchemaProjection

namespace Text

/-- The blanks as ranges of code points. -/
def blankRanges : List (Nat × Nat) :=
  [(9, 13), (0x20, 0x20), (0x85, 0x85), (0xA0, 0xA0), (0x1680, 0x1680), (0x2000, 0x200A),
    (0x2028, 0x2028), (0x2029, 0x2029), (0x202F, 0x202F), (0x205F, 0x205F), (0x3000, 0x3000)]

/-- A blank lies in one of the ranges. -/
theorem isBlank_iff {c : Char} :
    isBlank c = true ↔ ∃ range ∈ blankRanges, range.1 ≤ c.toNat ∧ c.toNat ≤ range.2 := by
  simp only [isBlank, blankRanges, Bool.or_eq_true, Bool.and_eq_true, decide_eq_true_eq,
    beq_iff_eq, List.mem_cons, List.not_mem_nil, or_false, exists_eq_or_imp, exists_eq_left,
    ← Nat.le_antisymm_iff, @eq_comm Nat c.toNat, or_assoc]

/-- No range of blanks meets a range of letters or numerals. -/
theorem blankRanges_apart :
    (wordRanges.toList.all fun word => blankRanges.all fun blank =>
      word.2.blt blank.1 || blank.2.blt word.1) = true := by
  decide +kernel

/-- The letters and digits of ASCII as ranges of code points. -/
theorem isAlphanum_iff {c : Char} :
    c.isAlphanum = true ↔ 48 ≤ c.toNat ∧ c.toNat ≤ 57 ∨ 65 ≤ c.toNat ∧ c.toNat ≤ 90 ∨
      97 ≤ c.toNat ∧ c.toNat ≤ 122 := by
  have tests : c.isAlphanum = (decide (65 ≤ c.val ∧ c.val ≤ 90) ||
      decide (97 ≤ c.val) && decide (c.val ≤ 122) ||
      decide (48 ≤ c.val) && decide (c.val ≤ 57)) := rfl
  simp only [tests, UInt32.le_iff_toNat_le, Bool.or_eq_true, Bool.and_eq_true, decide_eq_true_eq]
  change (65 ≤ c.toNat ∧ c.toNat ≤ 90 ∨ 97 ≤ c.toNat ∧ c.toNat ≤ 122) ∨
    48 ≤ c.toNat ∧ c.toNat ≤ 57 ↔ _
  omega

/-- A blank is no letter and no numeral. -/
theorem not_isWordChar_of_isBlank {c : Char} (blank : isBlank c = true) :
    isWordChar c = false := by
  rw [isWordChar]
  split
  next ascii =>
    simp only [isBlank, Bool.or_eq_true, Bool.and_eq_true, decide_eq_true_eq, beq_iff_eq] at blank
    rw [Bool.eq_false_iff, ne_eq, isAlphanum_iff]
    omega
  next =>
    obtain ⟨range, listed, lower, upper⟩ := isBlank_iff.mp blank
    have apart := blankRanges_apart
    simp only [List.all_eq_true, Bool.or_eq_true, Nat.blt_eq] at apart
    rw [inRanges, Array.any_eq_false']
    intro word held
    have side := apart word (Array.mem_toList_iff.mpr held) range listed
    simp only [Bool.and_eq_true, decide_eq_true_eq, not_and]
    omega

/-- Blanks at the front are skipped. -/
theorem skipBlank_append {blanks : List Char} (blank : ∀ c ∈ blanks, isBlank c = true)
    (text : List Char) : skipBlank (blanks ++ text) = skipBlank text :=
  List.dropWhile_append_of_pos blank

/-- A text that begins with no blank is left as it is. -/
theorem skipBlank_cons {c : Char} (other : isBlank c = false) (text : List Char) :
    skipBlank (c :: text) = c :: text := by
  rw [skipBlank, List.dropWhile_cons_of_neg (by simp [other])]

/-- After blanks are skipped there are none at the front. -/
theorem skipBlank_skipBlank (text : List Char) : skipBlank (skipBlank text) = skipBlank text :=
  List.dropWhile_idempotent isBlank text

/-- A text is its leading blanks and what is left of it. -/
theorem exists_blanks_append_skipBlank (text : List Char) :
    ∃ blanks, (∀ c ∈ blanks, isBlank c = true) ∧ text = blanks ++ skipBlank text :=
  ⟨text.takeWhile isBlank, fun _ => List.mem_takeWhile_imp, (List.takeWhile_append_dropWhile).symm⟩

end Text

namespace TypeExpr

open Text (Front isBlank skipBlank)

/-- A character of a name is no blank. -/
theorem not_isNameChar_of_isBlank {c : Char} (blank : isBlank c = true) :
    isNameChar c = false := by
  have signs : ['_', '$', '.', ':', '?'].all (fun sign => isBlank sign == false) = true := by
    decide
  have other : ∀ sign ∈ ['_', '$', '.', ':', '?'], (c == sign) = false := by
    intro sign listed
    rw [beq_eq_false_iff_ne]
    rintro rfl
    have plain := List.all_eq_true.mp signs c listed
    simp [blank] at plain
  simp [isNameChar, Text.not_isWordChar_of_isBlank blank, other]

/-- Blanks, or nothing. -/
def Blanks (text : List Char) : Prop := ∀ c ∈ text, isBlank c = true

/-- One or more characters of a name. -/
def IsName (text : List Char) : Prop := text ≠ [] ∧ ∀ c ∈ text, isNameChar c = true

/-- Array suffixes with blanks before each of them and behind the last. -/
inductive WrittenSuffixes : List Char → Nat → Prop
  /-- Blanks behind the last suffix. -/
  | done {blanks : List Char} (blank : Blanks blanks) : WrittenSuffixes blanks 0
  /-- One more suffix before the others. -/
  | more {blanks rest : List Char} {count : Nat} (blank : Blanks blanks)
      (others : WrittenSuffixes rest count) :
      WrittenSuffixes (blanks ++ '[' :: ']' :: rest) (count + 1)

mutual

/-- A text is written as an expression: a name, arguments or none, and array suffixes, with
blanks around each part. -/
inductive Written : List Char → TypeExpr → Prop
  /-- The parts of an expression in order. -/
  | parts {lead name gap inner tail : List Char} {arguments : List TypeExpr} {dimensions : Nat}
      (leading : Blanks lead) (named : IsName name) (between : Blanks gap)
      (applied : WrittenArguments inner arguments) (suffixes : WrittenSuffixes tail dimensions) :
      Written (lead ++ name ++ gap ++ inner ++ tail)
        ⟨String.ofList name, arguments, dimensions⟩

/-- A text is written as arguments in angle brackets, or there are none. -/
inductive WrittenArguments : List Char → List TypeExpr → Prop
  /-- No arguments. -/
  | none : WrittenArguments [] []
  /-- Arguments between brackets. -/
  | enclosed {inner : List Char} {arguments : List TypeExpr}
      (listed : WrittenList inner arguments) :
      WrittenArguments ('<' :: inner ++ ['>']) arguments

/-- A text is written as one or more expressions with commas between them. -/
inductive WrittenList : List Char → List TypeExpr → Prop
  /-- The last expression. -/
  | last {text : List Char} {type : TypeExpr} (only : Written text type) :
      WrittenList text [type]
  /-- An expression before others. -/
  | more {text rest : List Char} {type : TypeExpr} {others : List TypeExpr}
      (first : Written text type) (further : WrittenList rest others) :
      WrittenList (text ++ ',' :: rest) (type :: others)

end

/-- The reader takes an expression from the front of a text and leaves the rest. -/
def Reads (text : List Char) (type : TypeExpr) (rest : List Char) : Prop :=
  ∃ front, TypeExpr.read text = .ok front ∧ front.value = type ∧ front.rest = rest

/-- The reader takes arguments and their closing bracket from the front of a text. -/
def ReadsArguments (text : List Char) (types : List TypeExpr) (rest : List Char) : Prop :=
  ∃ front, readArguments text = .ok front ∧ front.value = types ∧ front.rest = rest

/-- The reader takes arguments behind a name, if there is an opening bracket. -/
def ReadsApplied (text : List Char) (types : List TypeExpr) (rest : List Char) : Prop :=
  (∃ inner, text = '<' :: inner ∧ ReadsArguments inner types rest) ∨
    (∀ inner, text ≠ '<' :: inner) ∧ types = [] ∧ rest = text

/-- What follows the leading name of a text, without blanks before it. -/
def behindName (text : List Char) : List Char :=
  skipBlank ((skipBlank text).dropWhile isNameChar)

/-- An expression is taken part by part. -/
theorem reads_iff {text : List Char} {type : TypeExpr} {rest : List Char} :
    Reads text type rest ↔
      (skipBlank text).takeWhile isNameChar ≠ [] ∧
        ∃ arguments tail, ReadsApplied (behindName text) arguments tail ∧
          ⟨String.ofList ((skipBlank text).takeWhile isNameChar), arguments,
            (readSuffixes tail).1⟩ = type ∧
          (readSuffixes tail).2 = rest := by
  rw [Reads, TypeExpr.read]
  by_cases named : (skipBlank text).takeWhile isNameChar = []
  · simp [named]
  · simp only [dif_neg named]
    split
    next inner following =>
      have applied (arguments tail) : ReadsApplied (behindName text) arguments tail ↔
          ReadsArguments inner arguments tail := by
        simp [ReadsApplied, behindName, following]
      simp only [applied, ReadsArguments]
      cases readArguments inner <;> simp [named]
    next other =>
      have applied (arguments tail) : ReadsApplied (behindName text) arguments tail ↔
          arguments = [] ∧ tail = behindName text := by
        have absent (inner) : behindName text ≠ '<' :: inner := other inner
        simp [ReadsApplied, absent]
      simp only [ne_eq, named, not_false_eq_true, true_and, applied, Except.ok.injEq,
        exists_eq_left', and_assoc, exists_and_left, exists_eq_left]
      rfl

/-- Arguments are taken one after the other up to the closing bracket. -/
theorem readsArguments_iff {text : List Char} {types : List TypeExpr} {rest : List Char} :
    ReadsArguments text types rest ↔
      ∃ first middle, Reads text first middle ∧
        ((∃ further others, skipBlank middle = ',' :: further ∧
            ReadsArguments further others rest ∧ first :: others = types) ∨
          skipBlank middle = '>' :: rest ∧ [first] = types) := by
  rw [ReadsArguments, readArguments]
  simp only [Reads]
  cases TypeExpr.read text with
  | error stuck => simp
  | ok front =>
    obtain ⟨first, middle, shorter⟩ := front
    simp only [Except.ok.injEq, exists_eq_left', and_assoc, exists_and_left]
    split
    next further following =>
      simp only [following, ReadsArguments, List.cons.injEq, Char.reduceEq, true_and, false_and,
        or_false, exists_eq_left']
      cases readArguments further <;> simp [and_comm]
    next last following => simp [following, and_comm]
    next noComma noClosing =>
      have comma (further) : skipBlank middle ≠ ',' :: further := noComma further
      have closing (last) : skipBlank middle ≠ '>' :: last := noClosing last
      simp [comma, closing]

/-- What is left behind an expression is shorter. -/
theorem Reads.shorter {text : List Char} {type : TypeExpr} {rest : List Char}
    (reads : Reads text type rest) : rest.length < text.length := by
  obtain ⟨front, -, -, rfl⟩ := reads
  exact front.shorter

/-- The counted suffixes are written before what is left. -/
theorem writtenSuffixes_of_readSuffixes (text : List Char) :
    ∃ front, text = front ++ (readSuffixes text).2 ∧
      WrittenSuffixes front (readSuffixes text).1 := by
  fun_induction readSuffixes text with
  | case1 text rest following count last counted ih =>
    obtain ⟨blanks, blank, parts⟩ := Text.exists_blanks_append_skipBlank text
    obtain ⟨front, same, suffixes⟩ := ih
    rw [counted] at same suffixes
    refine ⟨blanks ++ '[' :: ']' :: front, ?_, .more blank suffixes⟩
    rw [parts, following, same]
    simp
  | case2 text none =>
    obtain ⟨blanks, blank, parts⟩ := Text.exists_blanks_append_skipBlank text
    exact ⟨blanks, parts, .done blank⟩

/-- No blanks are left behind the suffixes. -/
theorem skipBlank_readSuffixes (text : List Char) :
    skipBlank (readSuffixes text).2 = (readSuffixes text).2 := by
  fun_induction readSuffixes text with
  | case1 text rest following count last counted ih => rwa [counted] at ih
  | case2 text none => exact Text.skipBlank_skipBlank text

/-- No blanks are left behind an expression. -/
theorem Reads.skipBlank_eq {text : List Char} {type : TypeExpr} {rest : List Char}
    (reads : Reads text type rest) : skipBlank rest = rest := by
  obtain ⟨-, _, tail, -, -, rfl⟩ := reads_iff.mp reads
  exact skipBlank_readSuffixes tail

/-- A text is blanks, its leading name, blanks again, and what follows. -/
theorem exists_parts_behindName (text : List Char) :
    ∃ lead gap, Blanks lead ∧ Blanks gap ∧
      text = lead ++ (skipBlank text).takeWhile isNameChar ++ gap ++ behindName text := by
  obtain ⟨lead, leading, whole⟩ := Text.exists_blanks_append_skipBlank text
  obtain ⟨gap, between, behind⟩ :=
    Text.exists_blanks_append_skipBlank ((skipBlank text).dropWhile isNameChar)
  refine ⟨lead, gap, leading, between, ?_⟩
  calc text = lead ++ ((skipBlank text).takeWhile isNameChar ++
        (skipBlank text).dropWhile isNameChar) := by rw [List.takeWhile_append_dropWhile, ← whole]
    _ = lead ++ ((skipBlank text).takeWhile isNameChar ++ (gap ++ behindName text)) := by
      rw [behindName, ← behind]
    _ = _ := by simp only [List.append_assoc]

/-- What follows an opening bracket behind the leading name is shorter than the text. -/
theorem length_lt_of_behindName {text inner : List Char}
    (following : behindName text = '<' :: inner) : inner.length < text.length := by
  obtain ⟨lead, gap, -, -, parts⟩ := exists_parts_behindName text
  rw [parts, following]
  simp only [List.length_append, List.length_cons]
  omega

/-- Arguments are read behind a name as they are written, if those between brackets are. -/
theorem ReadsApplied.written {text : List Char} {types : List TypeExpr} {rest : List Char}
    (reads : ReadsApplied text types rest)
    (between : ∀ inner, text = '<' :: inner → ReadsArguments inner types rest →
      ∃ front, inner = front ++ '>' :: rest ∧ WrittenList front types) :
    ∃ front, text = front ++ rest ∧ WrittenArguments front types := by
  rcases reads with ⟨inner, rfl, reads⟩ | ⟨-, rfl, rfl⟩
  · obtain ⟨front, rfl, listed⟩ := between inner rfl reads
    exact ⟨'<' :: front ++ ['>'], by simp, .enclosed listed⟩
  · exact ⟨[], rfl, .none⟩

mutual

/-- An expression is read as it is written. -/
theorem written_of_reads {text : List Char} {type : TypeExpr} {rest : List Char}
    (reads : Reads text type rest) : ∃ front, text = front ++ rest ∧ Written front type := by
  obtain ⟨named, arguments, tail, applied, rfl, rfl⟩ := reads_iff.mp reads
  obtain ⟨lead, gap, leading, between, parts⟩ := exists_parts_behindName text
  obtain ⟨inner, same, applied⟩ := applied.written fun inner following reads =>
    have := length_lt_of_behindName following
    writtenList_of_readsArguments reads
  obtain ⟨front, whole, suffixes⟩ := writtenSuffixes_of_readSuffixes tail
  refine ⟨lead ++ (skipBlank text).takeWhile isNameChar ++ gap ++ inner ++ front, ?_,
    .parts leading ⟨named, fun c => List.mem_takeWhile_imp⟩ between applied suffixes⟩
  calc text = lead ++ (skipBlank text).takeWhile isNameChar ++ gap ++ (inner ++ tail) := by
        rw [← same, ← parts]
    _ = lead ++ (skipBlank text).takeWhile isNameChar ++ gap ++
        (inner ++ (front ++ (readSuffixes tail).2)) := by rw [← whole]
    _ = _ := by simp only [List.append_assoc]
termination_by (text.length, 0)
decreasing_by exact Prod.Lex.left _ _ ‹_›

/-- Arguments are read as they are written, up to the closing bracket. -/
theorem writtenList_of_readsArguments {text : List Char} {types : List TypeExpr}
    {rest : List Char} (reads : ReadsArguments text types rest) :
    ∃ front, text = front ++ '>' :: rest ∧ WrittenList front types := by
  obtain ⟨first, middle, leading, continued⟩ := readsArguments_iff.mp reads
  obtain ⟨front, whole, written⟩ := written_of_reads leading
  have shorter := leading.shorter
  rw [leading.skipBlank_eq] at continued
  rcases continued with ⟨further, others, rfl, later, rfl⟩ | ⟨rfl, rfl⟩
  · have : further.length < text.length := by
      rw [List.length_cons] at shorter
      omega
    obtain ⟨back, rfl, listed⟩ := writtenList_of_readsArguments later
    exact ⟨front ++ ',' :: back, by rw [whole]; simp, .more written listed⟩
  · exact ⟨front, whole, .last written⟩
termination_by (text.length, 1)
decreasing_by
  · exact Prod.Lex.right _ Nat.zero_lt_one
  · exact Prod.Lex.left _ _ ‹_›

end

/-- The text ends here, or a comma or a closing bracket follows. -/
def Stops (text : List Char) : Prop := ∀ c ∈ text.head?, c = ',' ∨ c = '>'

/-- No name goes on here. -/
def EndsName (text : List Char) : Prop := ∀ c ∈ text.head?, isNameChar c = false

/-- Where a text stops no blanks follow. -/
theorem Stops.skipBlank_eq {text : List Char} (stops : Stops text) : skipBlank text = text := by
  cases text with
  | nil => rfl
  | cons c rest =>
    obtain rfl | rfl := stops c rfl <;> exact Text.skipBlank_cons (by decide) rest

/-- Where a text stops, it begins with no other character. -/
theorem Stops.ne_cons {text : List Char} (stops : Stops text) {c : Char}
    (other : c ≠ ',' ∧ c ≠ '>') (rest : List Char) : text ≠ c :: rest := by
  rintro rfl
  rcases stops c rfl with same | same
  · exact other.1 same
  · exact other.2 same

/-- A suffix at the front is counted. -/
theorem readSuffixes_of_suffix {text rest : List Char}
    (following : skipBlank text = '[' :: ']' :: rest) :
    readSuffixes text = ((readSuffixes rest).1 + 1, (readSuffixes rest).2) := by
  rw [readSuffixes]
  split
  next other same =>
    rw [following] at same
    obtain rfl : rest = other := by simpa using same
    rfl
  next unfollowed => exact absurd following (unfollowed rest)

/-- Where no suffix follows, nothing but blanks is taken. -/
theorem readSuffixes_of_none {text : List Char}
    (unfollowed : ∀ rest, skipBlank text ≠ '[' :: ']' :: rest) :
    readSuffixes text = (0, skipBlank text) := by
  rw [readSuffixes]
  split
  next rest following => exact absurd following (unfollowed rest)
  next => rfl

/-- Blanks before suffixes do not count. -/
theorem readSuffixes_skipBlank (text : List Char) :
    readSuffixes (skipBlank text) = readSuffixes text := by
  by_cases followed : ∃ rest, skipBlank text = '[' :: ']' :: rest
  · obtain ⟨rest, following⟩ := followed
    rw [readSuffixes_of_suffix following,
      readSuffixes_of_suffix ((Text.skipBlank_skipBlank text).trans following)]
  · rw [not_exists] at followed
    rw [readSuffixes_of_none followed, readSuffixes_of_none (by rwa [Text.skipBlank_skipBlank]),
      Text.skipBlank_skipBlank]

/-- Written suffixes before a text that begins with no blank and no suffix are all counted. -/
theorem WrittenSuffixes.read_before {front rest : List Char} {count : Nat}
    (written : WrittenSuffixes front count) (settled : skipBlank rest = rest)
    (ends : ∀ back, rest ≠ '[' :: ']' :: back) : readSuffixes (front ++ rest) = (count, rest) := by
  induction written with
  | done blank =>
    have behind := (Text.skipBlank_append blank rest).trans settled
    rw [readSuffixes_of_none (by simpa [behind] using ends), behind]
  | @more blanks others count blank _ ih =>
    have following : skipBlank ((blanks ++ '[' :: ']' :: others) ++ rest) =
        '[' :: ']' :: (others ++ rest) := by
      rw [List.append_assoc, Text.skipBlank_append blank]
      exact Text.skipBlank_cons (by decide) _
    rw [readSuffixes_of_suffix following, ih]

/-- Written suffixes before a stop are all counted. -/
theorem WrittenSuffixes.read {front rest : List Char} {count : Nat}
    (written : WrittenSuffixes front count) (stops : Stops rest) :
    readSuffixes (front ++ rest) = (count, rest) :=
  written.read_before stops.skipBlank_eq fun _ => stops.ne_cons (by decide) _

/-- Written suffixes begin with no opening bracket of arguments. -/
theorem WrittenSuffixes.skipBlank_ne {front rest : List Char} {count : Nat}
    (written : WrittenSuffixes front count) (stops : Stops rest) (inner : List Char) :
    skipBlank (front ++ rest) ≠ '<' :: inner := by
  cases written with
  | done blank =>
    rw [Text.skipBlank_append blank, stops.skipBlank_eq]
    exact stops.ne_cons (by decide) inner
  | more blank _ =>
    rw [List.append_assoc, Text.skipBlank_append blank, List.cons_append,
      Text.skipBlank_cons (by decide)]
    simp

/-- A name ends before two texts if it ends before both of them. -/
theorem EndsName.append {front back : List Char} (first : EndsName front)
    (second : EndsName back) : EndsName (front ++ back) := by
  cases front with
  | nil => exact second
  | cons c rest => exact first

/-- A name ends before blanks. -/
theorem Blanks.endsName {text : List Char} (blank : Blanks text) : EndsName text := by
  intro c front
  exact not_isNameChar_of_isBlank (blank c (List.mem_of_mem_head? front))

/-- A name ends before arguments. -/
theorem WrittenArguments.endsName {text : List Char} {types : List TypeExpr}
    (written : WrittenArguments text types) : EndsName text := by
  cases written with
  | none => nofun
  | enclosed listed =>
    rintro c ⟨rfl⟩
    decide

/-- A name ends before suffixes. -/
theorem WrittenSuffixes.endsName {text : List Char} {count : Nat}
    (written : WrittenSuffixes text count) : EndsName text := by
  cases written with
  | done blank => exact blank.endsName
  | more blank _ =>
    refine blank.endsName.append ?_
    rintro c ⟨rfl⟩
    decide

/-- A name ends where an expression stops. -/
theorem Stops.endsName {text : List Char} (stops : Stops text) : EndsName text := by
  intro c front
  obtain rfl | rfl := stops c front <;> decide

/-- A name between blanks is the leading name of a text. -/
theorem leadingName_eq {lead name gap behind : List Char} (leading : Blanks lead)
    (named : IsName name) (between : Blanks gap) (ends : EndsName behind) :
    (skipBlank (lead ++ name ++ gap ++ behind)).takeWhile isNameChar = name ∧
      behindName (lead ++ name ++ gap ++ behind) = skipBlank behind := by
  obtain ⟨nonempty, chars⟩ := named
  have begins : skipBlank (lead ++ name ++ gap ++ behind) = name ++ (gap ++ behind) := by
    obtain ⟨c, rest, rfl⟩ := List.exists_cons_of_ne_nil nonempty
    have other : isBlank c = false := by
      by_contra blank
      have other := not_isNameChar_of_isBlank (Bool.not_eq_false _ ▸ blank)
      rw [chars c List.mem_cons_self] at other
      cases other
    simp only [List.append_assoc, Text.skipBlank_append leading]
    exact Text.skipBlank_cons other _
  have ends : EndsName (gap ++ behind) := between.endsName.append ends
  have taken : (gap ++ behind).takeWhile isNameChar = [] ∧
      (gap ++ behind).dropWhile isNameChar = gap ++ behind := by
    cases same : gap ++ behind with
    | nil => simp
    | cons c rest => simp [ends c (by rw [same]; rfl)]
  rw [behindName, begins, List.takeWhile_append_of_pos chars, List.dropWhile_append_of_pos chars,
    taken.1, taken.2, List.append_nil]
  exact ⟨rfl, Text.skipBlank_append between behind⟩

mutual

/-- A written expression is read up to where it stops. -/
theorem reads_of_written {rest : List Char} (stops : Stops rest) :
    ∀ {text : List Char} {type : TypeExpr}, Written text type → Reads (text ++ rest) type rest
  | _, _, @Written.parts lead name gap inner tail arguments dimensions leading named between
      applied suffixes => by
    have ends : EndsName (inner ++ (tail ++ rest)) :=
      applied.endsName.append (suffixes.endsName.append stops.endsName)
    obtain ⟨taken, behind⟩ := leadingName_eq leading named between ends
    obtain ⟨back, reads, counted⟩ := readsApplied_of_written suffixes stops applied
    simp only [← List.append_assoc] at taken behind
    rw [reads_iff, taken, behind]
    exact ⟨named.1, arguments, back, by simpa using reads, by rw [counted], by rw [counted]⟩

/-- Written arguments are read behind a name. -/
theorem readsApplied_of_written {tail rest : List Char} {dimensions : Nat}
    (suffixes : WrittenSuffixes tail dimensions) (stops : Stops rest) :
    ∀ {inner : List Char} {types : List TypeExpr}, WrittenArguments inner types →
      ∃ back, ReadsApplied (skipBlank (inner ++ (tail ++ rest))) types back ∧
        readSuffixes back = (dimensions, rest)
  | _, _, .none => by
    refine ⟨_, .inr ⟨suffixes.skipBlank_ne stops, rfl, rfl⟩, ?_⟩
    rw [List.nil_append, readSuffixes_skipBlank, suffixes.read stops]
  | _, _, @WrittenArguments.enclosed inner _ listed => by
    refine ⟨tail ++ rest, .inl ⟨inner ++ '>' :: (tail ++ rest), ?_,
      readsArguments_of_writtenList (tail ++ rest) listed⟩, suffixes.read stops⟩
    rw [List.cons_append, List.cons_append, Text.skipBlank_cons (by decide)]
    simp

/-- Written arguments are read up to their closing bracket. -/
theorem readsArguments_of_writtenList (rest : List Char) :
    ∀ {text : List Char} {types : List TypeExpr}, WrittenList text types →
      ReadsArguments (text ++ '>' :: rest) types rest
  | _, _, @WrittenList.last _ type only => by
    have closing : Stops ('>' :: rest) := by
      rintro c ⟨rfl⟩
      exact .inr rfl
    exact readsArguments_iff.mpr
      ⟨type, _, reads_of_written closing only, .inr ⟨closing.skipBlank_eq, rfl⟩⟩
  | _, _, @WrittenList.more front back type others first further => by
    have comma : Stops (',' :: (back ++ '>' :: rest)) := by
      rintro c ⟨rfl⟩
      exact .inl rfl
    rw [List.append_assoc, List.cons_append]
    exact readsArguments_iff.mpr ⟨type, _, reads_of_written comma first,
      .inl ⟨_, others, comma.skipBlank_eq, readsArguments_of_writtenList rest further, rfl⟩⟩

end

/-- An expression is written with a character that is no blank. -/
theorem Written.not_blanks {text : List Char} {type : TypeExpr} (written : Written text type) :
    ¬Blanks text := by
  intro blank
  cases written with
  | @parts _ name _ _ _ _ _ _ named =>
    obtain ⟨c, held⟩ := List.exists_mem_of_ne_nil name named.1
    have other := not_isNameChar_of_isBlank (blank c (by simp [held]))
    rw [named.2 c held] at other
    cases other

/-- A blank text is no expression. -/
theorem parse_of_blanks {input : String} (blank : Blanks input.toList) :
    parse input = .error .empty := by
  rw [parse, if_pos (List.all_eq_true.mpr blank)]

/-- A text that is not blank is an expression if the reader takes all of it; what the reader
leaves is the fault. -/
theorem parse_of_reads {input : String} {type : TypeExpr} {rest : List Char}
    (unblank : ¬Blanks input.toList) (reads : Reads input.toList type rest) :
    parse input = if rest = [] then .ok type else .error (.at input rest) := by
  have settled := reads.skipBlank_eq
  obtain ⟨front, taken, rfl, rfl⟩ := reads
  rw [parse, if_neg fun blank => unblank (List.all_eq_true.mp blank)]
  simp only [taken, settled]
  split
  next empty => rw [if_pos empty]
  next other => rw [if_neg other]

/-- A text that is not blank and in which the reader stops is no expression. -/
theorem parse_of_stuck {input : String} {stuck : List Char} (unblank : ¬Blanks input.toList)
    (stops : TypeExpr.read input.toList = .error stuck) :
    parse input = .error (.at input stuck) := by
  rw [parse, if_neg fun blank => unblank (List.all_eq_true.mp blank)]
  simp only [stops]

/-- A text is read as an expression exactly when it is written as that expression. -/
theorem parse_eq_ok_iff {input : String} {type : TypeExpr} :
    parse input = .ok type ↔ Written input.toList type := by
  constructor
  · intro parsed
    by_cases blank : Blanks input.toList
    · simp [parse_of_blanks blank] at parsed
    · cases taken : TypeExpr.read input.toList with
      | error stuck => simp [parse_of_stuck blank taken] at parsed
      | ok front =>
        have reads : Reads input.toList front.value front.rest := ⟨front, taken, rfl, rfl⟩
        obtain ⟨text, whole, written⟩ := written_of_reads reads
        rw [parse_of_reads blank reads] at parsed
        split at parsed
        next empty =>
          obtain rfl : text = input.toList := by rw [whole, empty, List.append_nil]
          exact Except.ok.inj parsed ▸ written
        next => cases parsed
  · intro written
    have reads : Reads (input.toList ++ []) type [] :=
      reads_of_written (by simp [Stops]) written
    rw [List.append_nil] at reads
    rw [parse_of_reads written.not_blanks reads, if_pos rfl]

/-- A text is written as one expression at most. -/
theorem Written.unique {text : List Char} {first second : TypeExpr} (left : Written text first)
    (right : Written text second) : first = second := by
  rw [← String.toList_ofList (l := text), ← parse_eq_ok_iff] at left right
  exact Except.ok.inj (left.symm.trans right)

/-- The fault at a place is not that the text is empty. -/
theorem Fault.at_ne_empty (input : String) (stuck : List Char) : Fault.at input stuck ≠ .empty := by
  cases stuck <;> simp [Fault.at]

/-- A text is found to be empty exactly when it is blank. -/
theorem parse_eq_empty_iff {input : String} :
    parse input = .error .empty ↔ Blanks input.toList := by
  refine ⟨fun empty => ?_, parse_of_blanks⟩
  by_contra some
  cases taken : TypeExpr.read input.toList with
  | error stuck => simp [parse_of_stuck some taken, Fault.at_ne_empty] at empty
  | ok front =>
    have reads : Reads input.toList front.value front.rest := ⟨front, taken, rfl, rfl⟩
    rw [parse_of_reads some reads] at empty
    split at empty <;> simp [Fault.at_ne_empty] at empty

/-- Reading accepts exactly the grammar and decodes it uniquely. A text is read as an expression
exactly when it is written as that expression, with its name, its arguments in order and the
number of its suffixes; no text is written as two expressions; and the fault is that there is
nothing exactly when the text is blank. -/
theorem parse_decodes_written :
    (∀ input type, parse input = .ok type ↔ Written input.toList type) ∧
      (∀ text first second, Written text first → Written text second → first = second) ∧
      ∀ input, parse input = .error .empty ↔ Blanks input.toList :=
  ⟨fun _ _ => parse_eq_ok_iff, fun _ _ _ => Written.unique, fun _ => parse_eq_empty_iff⟩

end TypeExpr

end SchemaProjection
