import Mathlib.Data.List.DropRight
import SchemaProjection.Proofs.JsonTokens
import SchemaProjection.Proofs.Readers
import SchemaProjection.Toml.Document

/-!
# How TOML texts begin

A line of a TOML document holds a header, a key with its value, or nothing. Neither a header nor
a key begins as a JSON document does behind its blanks: with a brace, or with a bracket or two
behind which no key begins (`Bracketed`). No line is taken there, so no TOML document begins like
that (`ofText_of_bracketed`). A TOML document of blanks is empty (`ofText_of_blank`).
-/
namespace SchemaProjection

namespace Toml

open Json (isSpace isSpace_iff)
open Text (Reader)

variable {text rest : List Char} {c : Char}

/-- Whether a segment of a key begins with a character. -/
def startsSegment (c : Char) : Bool := c == '"' || c == '\'' || isBareChar c

/-- Blanks are taken as long as they follow each other. -/
theorem blanks_apply (text : List Char) : blanks text = some ((), text.dropWhile isBlank) := rfl

/-- No segment is taken where none begins. -/
theorem segment_eq_none
    (other : ∀ c ∈ (text.dropWhile isBlank).head?, startsSegment c = false) :
    segment text = none := by
  simp only [startsSegment, Bool.or_eq_false_iff, beq_eq_false_iff_ne] at other
  have basic : basicText (text.dropWhile isBlank) = none := by
    rw [basicText, Reader.bind_apply, Reader.char_eq_none fun c first => (other c first).1.1]
    rfl
  have literal : literalText (text.dropWhile isBlank) = none := by
    rw [literalText, Reader.bind_apply, Reader.char_eq_none fun c first => (other c first).1.2]
    rfl
  have bare : Reader.satisfying isBareChar (text.dropWhile isBlank) = none :=
    Reader.satisfying_eq_none fun c first => (other c first).2
  simp only [segment, Reader.bind_apply, Reader.orElse_apply, blanks_apply, basic, literal, bare,
    Option.bind_some, Option.bind_none, Option.or_none]

/-- No key is taken where no segment begins. -/
theorem key_eq_none (other : ∀ c ∈ (text.dropWhile isBlank).head?, startsSegment c = false) :
    key text = none := by
  simp only [key, Reader.separated, Reader.bind_apply, segment_eq_none other, Option.bind_none]

/-- No key with its value is taken where no segment begins. -/
theorem assignment_eq_none
    (other : ∀ c ∈ (text.dropWhile isBlank).head?, startsSegment c = false) :
    line.assignment text = none := by
  simp only [line.assignment, Reader.map_apply, pair, Reader.bind_apply, key_eq_none other,
    Option.bind_none, Option.map_none]

/-- What is left of a text behind the end of a line that it begins with, if it does. -/
def behindLineEnd? : List Char → Option (List Char)
  | [] => some []
  | c :: rest => if c = '\n' then some rest else none

/-- A line ends at a line feed or at the end of the text. -/
theorem lineEnd_apply (text : List Char) :
    (Reader.char '\n' <|> Reader.ending) text = (behindLineEnd? text).map ((), ·) := by
  cases text with
  | nil => rfl
  | cons c rest =>
    by_cases feed : c = '\n'
    · subst feed
      rfl
    · have refuses : Reader.char '\n' (c :: rest) = none :=
        Reader.char_eq_none fun _ first => Option.some.inj first ▸ feed
      rw [Reader.orElse_apply, refuses, behindLineEnd?, if_neg feed]
      rfl

/-- A line is blank if behind its blanks stands no header, no key and no comment. -/
theorem line_apply (behind : text.dropWhile isBlank = rest)
    (other : ∀ c ∈ rest.head?, startsSegment c = false ∧ c ≠ '#')
    (headless : line.header rest = none) :
    line text = (behindLineEnd? rest).map (.blank, ·) := by
  have same : rest.dropWhile isBlank = rest := by rw [← behind, List.dropWhile_idempotent]
  have unassigned : line.assignment rest = none :=
    assignment_eq_none fun c first => (other c (same ▸ first)).1
  have uncommented : comment rest = none := by
    rw [comment, Reader.bind_apply, Reader.char_eq_none fun c first => (other c first).2]
    rfl
  have nothing : (line.header <|> line.assignment <|> pure .blank) rest = some (.blank, rest) := by
    rw [Reader.orElse_apply, Reader.orElse_apply, headless, unassigned]
    rfl
  simp only [line, lineRest, Reader.bind_apply, blanks_apply, behind, same, nothing,
    Reader.maybe_of_none uncommented, Option.bind_some, lineEnd_apply]
  cases behindLineEnd? rest <;> rfl

/-- No header is taken where no bracket opens one. -/
theorem header_eq_none (other : ∀ c ∈ text.head?, c ≠ '[') : line.header text = none := by
  simp only [line.header, Reader.bind_apply, Reader.char_eq_none other, Option.bind_none]

/-- Where a line begins with a blank or a line end, there is only its end. -/
theorem line_of_space (space : ∀ c ∈ (text.dropWhile isBlank).head?, isSpace c = true) :
    line text = (behindLineEnd? (text.dropWhile isBlank)).map (.blank, ·) := by
  have plain (c : Char) (first : c ∈ (text.dropWhile isBlank).head?) :
      startsSegment c = false ∧ c ≠ '#' ∧ c ≠ '[' := by
    obtain rfl | rfl | rfl | rfl := isSpace_iff.mp (space c first) <;> decide
  exact line_apply rfl (fun c first => ⟨(plain c first).1, (plain c first).2.1⟩)
    (header_eq_none fun c first => (plain c first).2.2)

/-- Behind the end of a line among blanks there are further blanks. -/
theorem all_of_behindLineEnd (blank : text.all isSpace = true)
    (ends : behindLineEnd? text = some rest) : rest.all isSpace = true := by
  cases text with
  | nil =>
    cases ends
    rfl
  | cons c further =>
    obtain ⟨-, same⟩ := Option.ite_none_right_eq_some.mp ends
    cases same
    exact (Bool.and_eq_true_iff.mp blank).2

/-- A line of a text of blanks is blank, and further blanks follow it. -/
theorem line_of_blank {content : Line} (blank : text.all isSpace = true)
    (taken : line text = some (content, rest)) : content = .blank ∧ rest.all isSpace = true := by
  have further : (text.dropWhile isBlank).all isSpace = true :=
    List.all_eq_true.mpr fun c behind =>
      List.all_eq_true.mp blank c ((List.dropWhile_sublist _).subset behind)
  rw [line_of_space fun c first => List.all_eq_true.mp further c (List.mem_of_mem_head? first)]
    at taken
  obtain ⟨_, ends, same⟩ := Option.map_eq_some_iff.mp taken
  cases same
  exact ⟨rfl, all_of_behindLineEnd further ends⟩

/-- All lines of a text of blanks are blank. -/
theorem repeated_line_of_blank (blank : text.all isSpace = true) :
    ∀ content ∈ (Reader.repeated line text).1, content = .blank := by
  fun_induction Reader.repeated line text with
  | case1 | case3 => exact List.forall_mem_nil _
  | case2 text content rest taken _ _ _ same ih =>
    obtain ⟨rfl, further⟩ := line_of_blank blank taken
    rw [same] at ih
    exact List.forall_mem_cons.mpr ⟨rfl, ih further⟩

/-- Blank lines give nothing to a document. -/
theorem document_of_blank {lines : List Line} (blank : ∀ content ∈ lines, content = .blank)
    (entries : List (String × Node)) (header : List String) :
    document entries header lines = some entries := by
  induction lines with
  | nil => rfl
  | cons content lines ih =>
    obtain ⟨rfl, further⟩ := List.forall_mem_cons.mp blank
    exact ih further

/-- A text has nothing behind its blanks and line ends, or a bracket, so that no key begins
there. -/
def Keyless (text : List Char) : Prop :=
  ∀ c ∈ (text.dropWhile isSpace).head?, c = '[' ∨ c = ']' ∨ c = '\x7b'

/-- A text begins with a brace, or with a bracket or two behind which no key begins. -/
inductive Bracketed : List Char → Prop
  /-- A brace. -/
  | brace (rest : List Char) : Bracketed ('\x7b' :: rest)
  /-- A bracket, or two of them. -/
  | bracket {rest : List Char} (keyless : Keyless rest)
    (inner : ∀ further, rest = '[' :: further → Keyless further) : Bracketed ('[' :: rest)

/-- Blanks inside a line are blanks. -/
theorem dropWhile_isSpace_dropWhile_isBlank (text : List Char) :
    (text.dropWhile isBlank).dropWhile isSpace = text.dropWhile isSpace := by
  induction text with
  | nil => rfl
  | cons c rest ih =>
    by_cases blank : isBlank c = true
    · have space : isSpace c = true := by
        simp only [isBlank, Bool.or_eq_true, beq_iff_eq] at blank
        obtain rfl | rfl := blank <;> decide
      rw [List.dropWhile_cons_of_pos blank, List.dropWhile_cons_of_pos space, ih]
    · rw [List.dropWhile_cons_of_neg blank]

/-- What stands before other characters begins with no key if these follow no key. -/
theorem Keyless.of_append {more : List Char} (keyless : Keyless (text ++ more)) :
    Keyless text := by
  intro c first
  refine keyless c ?_
  obtain ⟨rest, begins⟩ := List.head?_eq_some_iff.mp first
  rw [List.dropWhile_append, begins]
  rfl

/-- The beginning of a text that begins like a document in JSON begins like one, if it does not
consist of blanks. -/
theorem Bracketed.of_append {more : List Char}
    (bracketed : Bracketed ((text ++ more).dropWhile isSpace)) :
    text.all isSpace = true ∨ Bracketed (text.dropWhile isSpace) := by
  rw [List.dropWhile_append] at bracketed
  cases begins : text.dropWhile isSpace with
  | nil => exact .inl (List.all_eq_true.mpr (List.dropWhile_eq_nil_iff.mp begins))
  | cons c rest =>
    right
    rw [begins] at bracketed
    cases bracketed with
    | brace => exact .brace rest
    | bracket keyless inner =>
      refine .bracket keyless.of_append fun further same => ?_
      exact (inner (further ++ more) (by rw [same]; rfl)).of_append

/-- No segment begins where a text is keyless. -/
theorem Keyless.startsSegment_eq_false (keyless : Keyless text) :
    ∀ c ∈ (text.dropWhile isBlank).head?, startsSegment c = false := by
  intro c first
  by_cases space : isSpace c = true
  · obtain rfl | rfl | rfl | rfl := isSpace_iff.mp space <;> decide
  · obtain ⟨rest, begins⟩ := List.head?_eq_some_iff.mp first
    have solid : (text.dropWhile isSpace).head? = some c := by
      rw [← dropWhile_isSpace_dropWhile_isBlank, begins, List.dropWhile_cons_of_neg space]
      rfl
    obtain rfl | rfl | rfl := keyless c solid <;> decide

/-- No header is taken where a text begins like a document in JSON. -/
theorem Bracketed.header_eq_none (bracketed : Bracketed text) : line.header text = none := by
  cases bracketed with
  | brace rest => exact Toml.header_eq_none fun _ first => Option.some.inj first ▸ by decide
  | @bracket rest keyless inner =>
    have opens (rest : List Char) : Reader.char '[' ('[' :: rest) = some ((), rest) := rfl
    have unnamed {text : List Char} (keyless : Keyless text) : key text = none :=
      key_eq_none keyless.startsSegment_eq_false
    simp only [line.header, Reader.bind_apply, opens, Option.bind_some]
    by_cases double : ∃ further, rest = '[' :: further
    · obtain ⟨further, rfl⟩ := double
      have second : Reader.maybe (Reader.char '[') ('[' :: further) = some (some (), further) := rfl
      rw [second, Option.bind_some, unnamed (inner further rfl), Option.bind_none]
    · have single : Reader.char '[' rest = none := by
        refine Reader.char_eq_none ?_
        rintro _ first rfl
        obtain ⟨further, same⟩ := List.head?_eq_some_iff.mp first
        exact double ⟨further, same⟩
      rw [Reader.maybe_of_none single, Option.bind_some, unnamed keyless, Option.bind_none]

/-- A line of a text that begins like a document in JSON behind its blanks is blank, and what
follows it begins like one again. -/
theorem line_of_bracketed {content : Line} (bracketed : Bracketed (text.dropWhile isSpace))
    (taken : line text = some (content, rest)) : Bracketed (rest.dropWhile isSpace) := by
  obtain ⟨c, further, begins⟩ : ∃ c further, text.dropWhile isBlank = c :: further := by
    refine List.exists_cons_of_ne_nil fun empty => ?_
    rw [← dropWhile_isSpace_dropWhile_isBlank, empty] at bracketed
    cases bracketed
  rw [← dropWhile_isSpace_dropWhile_isBlank, begins] at bracketed
  by_cases space : isSpace c = true
  · rw [line_of_space (by simpa [begins] using space), begins] at taken
    obtain ⟨_, ends, same⟩ := Option.map_eq_some_iff.mp taken
    cases same
    obtain ⟨rfl, same⟩ := Option.ite_none_right_eq_some.mp ends
    cases same
    rwa [List.dropWhile_cons_of_pos space] at bracketed
  · rw [List.dropWhile_cons_of_neg space] at bracketed
    have plain : startsSegment c = false ∧ c ≠ '#' ∧ c ≠ '\n' := by
      cases bracketed <;> decide
    rw [line_apply begins (fun _ first => Option.some.inj first ▸ ⟨plain.1, plain.2.1⟩)
      bracketed.header_eq_none, behindLineEnd?, if_neg plain.2.2] at taken
    cases taken

/-- The lines of a text that begins like a document in JSON end before the text does. -/
theorem repeated_line_of_bracketed (bracketed : Bracketed (text.dropWhile isSpace)) :
    (Reader.repeated line text).2 ≠ [] := by
  have nonempty {text : List Char} (bracketed : Bracketed (text.dropWhile isSpace)) :
      text ≠ [] := by
    rintro rfl
    cases bracketed
  fun_induction Reader.repeated line text with
  | case1 | case3 => exact nonempty bracketed
  | case2 text content rest taken _ _ _ same ih =>
    rw [same] at ih
    exact ih (line_of_bracketed bracketed taken)

/-- A character before others is kept when line ends are made line feeds. -/
theorem withLineFeeds_cons (other : c ≠ '\r') (rest : List Char) :
    withLineFeeds (c :: rest) = c :: withLineFeeds rest := by
  rw [withLineFeeds]
  exact fun _ same => absurd same other

/-- Blanks stay blanks when line ends are made line feeds. -/
theorem dropWhile_withLineFeeds (text : List Char) :
    (withLineFeeds text).dropWhile isSpace = withLineFeeds (text.dropWhile isSpace) := by
  fun_induction withLineFeeds text with
  | case1 => rfl
  | case2 rest ih => exact ih
  | case3 c rest other ih =>
    by_cases space : isSpace c = true
    · rw [List.dropWhile_cons_of_pos space, List.dropWhile_cons_of_pos space, ih]
    · have solid : c ≠ '\r' := fun same => space (same ▸ rfl)
      rw [List.dropWhile_cons_of_neg space, List.dropWhile_cons_of_neg space,
        withLineFeeds_cons solid]

/-- What follows a bracket that line ends leave behind followed it before. -/
theorem exists_of_withLineFeeds_eq_cons {further : List Char}
    (begins : withLineFeeds text = '[' :: further) :
    ∃ rest, text = '[' :: rest ∧ withLineFeeds rest = further := by
  fun_cases withLineFeeds text with
  | case1 => cases begins
  | case2 rest => cases begins
  | case3 c rest other =>
    rw [withLineFeeds] at begins
    · obtain ⟨rfl, same⟩ := List.cons.inj begins
      exact ⟨rest, rfl, same⟩
    · exact other

/-- Line ends do not matter to where no key begins. -/
theorem Keyless.withLineFeeds (keyless : Keyless text) : Keyless (withLineFeeds text) := by
  intro c first
  rw [dropWhile_withLineFeeds] at first
  cases begins : text.dropWhile isSpace with
  | nil =>
    rw [begins] at first
    cases first
  | cons other rest =>
    have bracket := keyless other (by rw [begins]; rfl)
    have solid : other ≠ '\r' := by
      rintro rfl
      simp at bracket
    rw [begins, withLineFeeds_cons solid] at first
    cases first
    exact bracket

/-- Line ends do not matter to whether a text begins like a document in JSON. -/
theorem Bracketed.withLineFeeds (bracketed : Bracketed text) : Bracketed (withLineFeeds text) := by
  cases bracketed with
  | brace rest =>
    rw [withLineFeeds_cons (by decide)]
    exact .brace _
  | bracket keyless inner =>
    rw [withLineFeeds_cons (by decide)]
    refine .bracket keyless.withLineFeeds fun further begins => ?_
    obtain ⟨rest, rfl, rfl⟩ := exists_of_withLineFeeds_eq_cons begins
    exact (inner rest rfl).withLineFeeds

/-- A text that begins with no mark behind its blanks has none. -/
theorem withoutMark_of_plain (plain : ∀ c ∈ (text.dropWhile isSpace).head?, c ≠ '\uFEFF') :
    withoutMark text = text := by
  rw [withoutMark.eq_def]
  split
  case h_1 rest => exact absurd rfl (plain '\uFEFF' rfl)
  case h_2 => rfl

/-- The lines of a text without a mark go up to its end. -/
theorem exists_lines_of_ofText {text : String} {entries : List (String × Value)}
    (plain : ∀ c ∈ (text.toList.dropWhile isSpace).head?, c ≠ '\uFEFF')
    (read : ofText text = some entries) :
    ∃ lines nodes, Reader.repeated line (withLineFeeds text.toList) = (lines, []) ∧
      document [] [] lines = some nodes ∧ Node.finishedEntries nodes = entries := by
  rw [ofText, withoutMark_of_plain plain] at read
  obtain ⟨lines, taken, read⟩ := Option.bind_eq_some_iff.mp read
  obtain ⟨nodes, held, same⟩ := Option.bind_eq_some_iff.mp read
  refine ⟨lines, nodes, ?_, held, Option.some.inj same⟩
  rw [Reader.whole?, Reader.many] at taken
  split at taken
  case h_1 whole =>
    cases taken
    exact Option.some.inj whole
  case h_2 => cases taken

/-- No document in TOML begins like one in JSON. -/
theorem ofText_of_bracketed {text : String}
    (bracketed : Bracketed (text.toList.dropWhile isSpace)) : ofText text = none := by
  have plain : ∀ c ∈ (text.toList.dropWhile isSpace).head?, c ≠ '\uFEFF' := by
    rintro c first rfl
    obtain ⟨rest, begins⟩ := List.head?_eq_some_iff.mp first
    rw [begins] at bracketed
    cases bracketed
  refine Option.eq_none_iff_forall_ne_some.mpr fun entries read => ?_
  obtain ⟨lines, nodes, taken, -, -⟩ := exists_lines_of_ofText plain read
  have begins : Bracketed ((withLineFeeds text.toList).dropWhile isSpace) := by
    rw [dropWhile_withLineFeeds]
    exact bracketed.withLineFeeds
  have left := repeated_line_of_bracketed begins
  exact left (congrArg Prod.snd taken)

/-- A document of blanks in TOML is empty. -/
theorem ofText_of_blank {text : String} {entries : List (String × Value)}
    (blank : text.toList.all isSpace = true) (read : ofText text = some entries) :
    entries = [] := by
  have empty : text.toList.dropWhile isSpace = [] :=
    List.dropWhile_eq_nil_iff.mpr (List.all_eq_true.mp blank)
  obtain ⟨lines, nodes, taken, held, rfl⟩ :=
    exists_lines_of_ofText (by rw [empty]; nofun) read
  have further : (withLineFeeds text.toList).all isSpace = true := by
    refine List.all_eq_true.mpr (List.dropWhile_eq_nil_iff.mp ?_)
    rw [dropWhile_withLineFeeds, empty]
    rfl
  have blankLines := repeated_line_of_blank further
  rw [taken] at blankLines
  rw [document_of_blank blankLines] at held
  cases held
  rfl

end Toml

end SchemaProjection
