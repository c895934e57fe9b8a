import Mathlib.Tactic.SplitIfs
import SchemaProjection.Proofs.JsonText
import SchemaProjection.Proofs.Readers
import SchemaProjection.Settings.Saved
import SchemaProjection.Toml.Document

/-!
# Saved texts are read back

A text is saved between quotes that allow it, with escapes where it needs them. Every character
is read back from how it stands (`written`), and the text ends at the quotes that close it and at
none before: an unescaped quote within is never followed by two others (`quotedText_textChars`).
So a text is read back whatever it holds. Of the line ends only the line feed is ever written as it
is (`not_mem_textChars`).
-/
namespace SchemaProjection.Toml

open SchemaProjection.Number (hexValue?)
open Settings (Quotes escape? escaped isControl quotesOf runs textChars upperHexDigit)
open Text (Reader)

/-- Put a character in front of what is read. -/
def before (c : Char) (read : List Char × List Char) : List Char × List Char :=
  (c :: read.1, read.2)

/-- The unit of a character of the first two hundred and fifty-six is the character. -/
theorem unit?_upperHexDigit {code : Nat} (small : code < 0x100) :
    Json.unit? '0' '0' (upperHexDigit (code / 16)) (upperHexDigit (code % 16)) = some code := by
  have digit : ∀ value < 16, hexValue? (upperHexDigit value) = some value := by decide
  have high := digit (code / 16) (by omega)
  have low := digit (code % 16) (by omega)
  have zero : hexValue? '0' = some 0 := by decide
  simp only [Json.unit?, zero, high, low, Option.bind_eq_bind, Option.bind_some, Option.some.injEq]
  omega

/-- The character of the code point of a character. -/
theorem scalar?_toNat (c : Char) : scalar? c.toNat = some c := by
  have valid : c.toNat.isValidChar := c.valid
  rw [scalar?, if_pos valid, Char.ofNat_toNat]

/-- How a character other than a double quote stands between double quotes. -/
inductive Written (multiline : Bool) (c : Char) : Prop
  /-- As a backslash with a letter that names it. -/
  | named {letter : Char} (escape : escape? multiline c = some ['\\', letter])
      (means : simpleEscape? letter = some c)
      (visible : letter ≠ ' ' ∧ letter ≠ '\t' ∧ letter ≠ '\n')
  /-- As the code of the character. -/
  | coded (escape : escape? multiline c = some
      ['\\', 'u', '0', '0', upperHexDigit (c.toNat / 16), upperHexDigit (c.toNat % 16)])
      (small : c.toNat < 0x100)
  /-- As the character itself. -/
  | plain (escape : escape? multiline c = none) (other : c ≠ '\\')
      (allowed : isPrintable c = true ∨ multiline = true ∧ c = '\n')

/-- A character stands between double quotes by its letter, by its code, or as itself. -/
theorem written (multiline : Bool) (c : Char) : Written multiline c := by
  have letter {named : Char} (name : Char) (same : (c == named) = true)
      (escape : escape? multiline named = some ['\\', name])
      (means : simpleEscape? name = some named)
      (visible : name ≠ ' ' ∧ name ≠ '\t' ∧ name ≠ '\n') : Written multiline c := by
    obtain rfl := eq_of_beq same
    exact .named escape means visible
  by_cases backslash : (c == '\\') = true
  · exact letter '\\' backslash rfl rfl (by decide)
  by_cases backspace : (c == '\x08') = true
  · exact letter 'b' backspace rfl rfl (by decide)
  by_cases tab : (c == '\t') = true
  · exact letter 't' tab rfl rfl (by decide)
  by_cases line : (c == '\n') = true
  · cases multiline with
    | false => exact letter 'n' line rfl rfl (by decide)
    | true =>
      obtain rfl := eq_of_beq line
      exact .plain rfl (by decide) (.inr ⟨rfl, rfl⟩)
  by_cases feed : (c == '\x0c') = true
  · exact letter 'f' feed rfl rfl (by decide)
  by_cases carriage : (c == '\r') = true
  · exact letter 'r' carriage rfl rfl (by decide)
  by_cases control : (c.toNat < 0x20 || c.toNat == 0x7F) = true
  · refine .coded ?_ ?_
    · simp only [escape?, backslash, backspace, tab, line, feed, carriage, control, if_true]
      rfl
    · simp only [Bool.or_eq_true, decide_eq_true_eq, beq_iff_eq] at control
      omega
  · refine .plain ?_ (by simpa using backslash) (.inl ?_)
    · simp only [escape?, backslash, backspace, tab, line, feed, carriage, control]
      rfl
    · simp only [Bool.or_eq_true, decide_eq_true_eq, beq_iff_eq, not_or] at control
      simp only [isPrintable, Bool.or_eq_true, Bool.and_eq_true, decide_eq_true_eq, bne_iff_ne]
      omega

/-- A character other than a double quote stands by its escape, or as it is. -/
theorem escaped_cons {c : Char} (quote : c ≠ '"') (multiline : Bool) (start : Nat)
    (rest : List Char) :
    escaped multiline start (c :: rest) =
      (escape? multiline c).getD [c] ++ escaped multiline 0 rest := by
  rw [escaped]
  · cases escape? multiline c <;> rfl
  · exact fun same => absurd same quote

/-- A text does not begin with a quote as it stands, if its first character is another one or too
many quotes stand before it. -/
theorem escaped_ne_quote {c : Char} {multiline : Bool} {start : Nat}
    (few : c = '"' → (multiline && start < 2) = false) (rest after more : List Char) :
    escaped multiline start (c :: rest) ++ after ≠ '"' :: more := by
  by_cases quote : c = '"'
  · subst quote
    rw [escaped, few rfl]
    exact nofun
  · rw [escaped_cons quote, List.append_assoc]
    cases written multiline c with
    | named escape | coded escape => rw [escape]; exact nofun
    | plain escape =>
      rw [escape]
      exact fun same => quote (List.cons.inj same).1

section Basic

variable {c : Char} (rest : List Char)

/-- An escape of one letter is read as the character that it names. -/
theorem readBasic_named {letter : Char} (means : simpleEscape? letter = some c) :
    readBasic ('\\' :: letter :: rest) = (readBasic rest).map (before c) := by
  have short : letter ≠ 'u' := by rintro rfl; cases means
  have long : letter ≠ 'U' := by rintro rfl; cases means
  cases read : readBasic rest <;> simp [readBasic, means, short, long, read, before]

/-- An escaped code is read as its character. -/
theorem readBasic_coded (small : c.toNat < 0x100) :
    readBasic ('\\' :: 'u' :: '0' :: '0' :: upperHexDigit (c.toNat / 16) ::
      upperHexDigit (c.toNat % 16) :: rest) = (readBasic rest).map (before c) := by
  cases read : readBasic rest <;>
    simp [readBasic, unit?_upperHexDigit small, scalar?_toNat, read, before]

/-- A printable character other than a double quote and a backslash is read as it stands. -/
theorem readBasic_plain (quote : c ≠ '"') (backslash : c ≠ '\\') (printed : isPrintable c = true) :
    readBasic (c :: rest) = (readBasic rest).map (before c) := by
  cases read : readBasic rest <;> simp [readBasic, backslash, printed, read, before]

/-- A character other than a double quote is read back from how it stands. -/
theorem readBasic_escape (quote : c ≠ '"') :
    readBasic ((escape? false c).getD [c] ++ rest) = (readBasic rest).map (before c) := by
  cases written false c with
  | named escape means => rw [escape]; exact readBasic_named rest means
  | coded escape small => rw [escape]; exact readBasic_coded rest small
  | plain escape other allowed =>
    rw [escape]
    exact readBasic_plain rest quote other (allowed.resolve_right fun held => nomatch held.1)

/-- A text is read back from between double quotes. -/
theorem readBasic_escaped (start : Nat) (text : List Char) :
    readBasic (escaped false start text ++ '"' :: rest) = some (text, rest) := by
  induction text generalizing start with
  | nil => rfl
  | cons c text ih =>
    by_cases quote : c = '"'
    · subst quote
      rw [escaped, Bool.false_and, if_neg Bool.false_ne_true, List.cons_append, List.cons_append,
        readBasic_named _ rfl, ih]
      rfl
    · rw [escaped_cons quote, List.append_assoc, readBasic_escape _ quote, ih]
      rfl

end Basic

section LongBasic

variable {c : Char} (rest : List Char)

/-- An escape of one letter is read as the character that it names. -/
theorem readLongBasic_named {letter : Char} (means : simpleEscape? letter = some c)
    (visible : letter ≠ ' ' ∧ letter ≠ '\t' ∧ letter ≠ '\n') :
    readLongBasic ('\\' :: letter :: rest) = (readLongBasic rest).map (before c) := by
  have short : letter ≠ 'u' := by rintro rfl; cases means
  have long : letter ≠ 'U' := by rintro rfl; cases means
  have ends : continuation? (letter :: rest) = none := by
    simp [continuation?, isBlank, visible]
  rw [readLongBasic]
  · split
    next after continued => rw [ends] at continued; cases continued
    next =>
      rw [means]
      cases readLongBasic rest <;> rfl
  · exact fun _ _ _ _ _ same => absurd same short
  · exact fun _ _ _ _ _ _ _ _ _ same => absurd same long

/-- An escaped code is read as its character. -/
theorem readLongBasic_coded (small : c.toNat < 0x100) :
    readLongBasic ('\\' :: 'u' :: '0' :: '0' :: upperHexDigit (c.toNat / 16) ::
      upperHexDigit (c.toNat % 16) :: rest) = (readLongBasic rest).map (before c) := by
  rw [readLongBasic, unit?_upperHexDigit small, Option.bind_some, scalar?_toNat]
  cases readLongBasic rest <;> rfl

/-- A character other than a backslash is read as it stands, if it is not the first of three
quotes. -/
theorem readLongBasic_plain (backslash : c ≠ '\\') (allowed : isPrintable c = true ∨ c = '\n')
    (quote : c = '"' → ∀ more, rest ≠ '"' :: '"' :: more) :
    readLongBasic (c :: rest) = (readLongBasic rest).map (before c) := by
  have kept : ((isPrintable c || c == '\n') && c != '\\') = true := by simpa [backslash]
  rw [readLongBasic]
  · rw [if_pos kept]
    cases readLongBasic rest <;> rfl
  · exact fun more first => quote first _
  · exact fun more first => quote first _
  · exact fun more first => quote first _
  · exact fun _ _ _ _ _ first => absurd first backslash
  · exact fun _ _ _ _ _ _ _ _ _ first => absurd first backslash
  · exact fun _ _ first => absurd first backslash

/-- A character other than a double quote is read back from how it stands. -/
theorem readLongBasic_escape (quote : c ≠ '"') :
    readLongBasic ((escape? true c).getD [c] ++ rest) = (readLongBasic rest).map (before c) := by
  cases written true c with
  | named escape means visible => rw [escape]; exact readLongBasic_named rest means visible
  | coded escape small => rw [escape]; exact readLongBasic_coded rest small
  | plain escape other allowed =>
    rw [escape]
    exact readLongBasic_plain rest other (allowed.imp_right And.right)
      fun same => absurd same quote

/-- One or two quotes before the three that close the text belong to it. -/
theorem readLongBasic_end (ends : rest.head? ≠ some '"') :
    readLongBasic ('"' :: '"' :: '"' :: rest) = some ([], rest) ∧
      readLongBasic ('"' :: '"' :: '"' :: '"' :: rest) = some (['"'], rest) ∧
      readLongBasic ('"' :: '"' :: '"' :: '"' :: '"' :: rest) = some (['"', '"'], rest) := by
  cases rest with
  | nil => simp [readLongBasic]
  | cons c rest =>
    have other : c ≠ '"' := by simpa using ends
    simp [readLongBasic, other]

/-- A text is read back from between three double quotes, of which none follows them. -/
theorem readLongBasic_escaped (ends : rest.head? ≠ some '"') (start : Nat) (text : List Char) :
    readLongBasic (escaped true start text ++ '"' :: '"' :: '"' :: rest) = some (text, rest) := by
  induction text generalizing start with
  | nil => exact (readLongBasic_end rest ends).1
  | cons c text ih =>
    by_cases quote : c = '"'
    · subst quote
      rw [escaped, Bool.true_and]
      split
      next few =>
        have step (apart : ∀ more, escaped true (start + 1) text ++ '"' :: '"' :: '"' :: rest ≠
            '"' :: '"' :: more) : readLongBasic
              ('"' :: (escaped true (start + 1) text ++ '"' :: '"' :: '"' :: rest)) =
                some ('"' :: text, rest) := by
          rw [readLongBasic_plain _ (by decide) (.inl rfl) fun _ => apart, ih]
          rfl
        cases text with
        | nil => exact (readLongBasic_end rest ends).2.1
        | cons d text =>
          by_cases second : d = '"' ∧ start = 0
          · obtain ⟨rfl, rfl⟩ := second
            cases text with
            | nil => exact (readLongBasic_end rest ends).2.2
            | cons e text =>
              refine step fun more same => ?_
              exact escaped_ne_quote (fun _ => rfl) text _ more (List.cons.inj same).2
          · refine step fun more => escaped_ne_quote (fun same => ?_) text _ _
            have : start ≠ 0 := fun first => second ⟨same, first⟩
            simp only [Bool.true_and, decide_eq_false_iff_not]
            omega
      next =>
        rw [List.cons_append, List.cons_append,
          readLongBasic_named (c := '"') _ rfl (by decide), ih]
        rfl
    · rw [escaped_cons quote, List.append_assoc, readLongBasic_escape _ quote, ih]
      rfl

end LongBasic

section Literal

variable {mark c : Char} {text : List Char}

/-- The runs of a text by its first character. -/
theorem runs_cons (mark c : Char) (text : List Char) :
    runs mark (c :: text) = if c = mark then
        (max (runs mark text).1 ((runs mark text).2 + 1), (runs mark text).2 + 1)
      else ((runs mark text).1, 0) := rfl

/-- The run at the beginning is no longer than the longest. -/
theorem runs_snd_le (mark : Char) (text : List Char) :
    (runs mark text).2 ≤ (runs mark text).1 := by
  cases text with
  | nil => exact Nat.le_refl 0
  | cons c rest =>
    rw [runs_cons]
    split
    · exact Nat.le_max_right ..
    · exact Nat.zero_le _

/-- A character in front shortens no run. -/
theorem runs_fst_le (mark c : Char) (text : List Char) :
    (runs mark text).1 ≤ (runs mark (c :: text)).1 := by
  rw [runs_cons]
  split
  · exact Nat.le_max_left ..
  · exact Nat.le_refl _

/-- Where there are no runs of a character, it is not in the text. -/
theorem not_mem_of_runs (unmarked : (runs mark text).1 = 0) : mark ∉ text := by
  induction text with
  | nil => exact List.not_mem_nil
  | cons c rest ih =>
    have later := ih (Nat.le_zero.mp (unmarked ▸ runs_fst_le mark c rest))
    rw [List.mem_cons, not_or]
    refine ⟨?_, later⟩
    rintro rfl
    rw [runs_cons, if_pos rfl] at unmarked
    omega

/-- A character of a text is read as it stands, if it is not the first of three quotes. -/
theorem readLongLiteral_plain (allowed : isPrintable c = true ∨ c = '\n')
    (quote : c = '\'' → ∀ more, text ≠ '\'' :: '\'' :: more) :
    readLongLiteral (c :: text) = (readLongLiteral text).map (before c) := by
  have kept : (isPrintable c || c == '\n') = true := by simpa
  rw [readLongLiteral]
  · rw [if_pos kept]
    cases readLongLiteral text <;> rfl
  · exact fun more first => quote first _
  · exact fun more first => quote first _
  · exact fun more first => quote first _

/-- One or two quotes before the three that close the text belong to it. -/
theorem readLongLiteral_end {rest : List Char} (ends : rest.head? ≠ some '\'') :
    readLongLiteral ('\'' :: '\'' :: '\'' :: rest) = some ([], rest) ∧
      readLongLiteral ('\'' :: '\'' :: '\'' :: '\'' :: rest) = some (['\''], rest) ∧
      readLongLiteral ('\'' :: '\'' :: '\'' :: '\'' :: '\'' :: rest) =
        some (['\'', '\''], rest) := by
  cases rest with
  | nil => simp [readLongLiteral]
  | cons c rest =>
    have other : c ≠ '\'' := by simpa using ends
    simp [readLongLiteral, other]

/-- A text without three quotes in a row is read back from between three quotes. -/
theorem readLongLiteral_text {rest : List Char} (ends : rest.head? ≠ some '\'')
    (few : (runs '\'' text).1 ≤ 2) (allowed : ∀ c ∈ text, isPrintable c = true ∨ c = '\n') :
    readLongLiteral (text ++ '\'' :: '\'' :: '\'' :: rest) = some (text, rest) := by
  induction text with
  | nil => exact (readLongLiteral_end ends).1
  | cons c text ih =>
    rw [List.forall_mem_cons] at allowed
    have read := ih (le_trans (runs_fst_le '\'' c text) few) allowed.2
    have step (apart : c = '\'' → ∀ more, text ++ '\'' :: '\'' :: '\'' :: rest ≠
        '\'' :: '\'' :: more) : readLongLiteral (c :: (text ++ '\'' :: '\'' :: '\'' :: rest)) =
          some (c :: text, rest) := by
      rw [readLongLiteral_plain allowed.1 apart, read]
      rfl
    by_cases quote : c = '\''
    · subst quote
      match text with
      | [] => exact (readLongLiteral_end ends).2.1
      | [d] =>
        by_cases second : d = '\''
        · subst second
          exact (readLongLiteral_end ends).2.2
        · exact step fun _ more same => second (List.cons.inj same).1
      | d :: e :: text =>
        refine step fun _ more same => ?_
        have longest := le_trans (runs_snd_le '\'' _) few
        obtain ⟨rfl, rfl, -⟩ : d = '\'' ∧ e = '\'' ∧ _ := by simpa using same
        simp only [runs_cons, if_true] at longest
        omega
    · exact step fun same => absurd same quote

end Literal

section Quoted

variable {text body rest : List Char}

/-- Of the characters that are no control characters, all but the line feed are printable. -/
theorem isPrintable_of_isControl {c : Char} (plain : isControl c = false) :
    isPrintable c = true ∨ c = '\n' := by
  by_cases line : c = '\n'
  · exact .inr line
  · by_cases tab : c = '\t'
    · exact .inl (by rw [tab]; rfl)
    · refine .inl ?_
      simp [isControl, line, tab] at plain
      simp [isPrintable, tab, plain]

/-- A text without control characters holds printable characters and line feeds. -/
theorem isPrintable_of_any (plain : ¬text.any isControl = true) :
    ∀ c ∈ text, isPrintable c = true ∨ c = '\n' := fun c held =>
  isPrintable_of_isControl (Bool.eq_false_iff.mpr fun control =>
    plain (List.any_eq_true.mpr ⟨c, held, control⟩))

/-- A text between single quotes holds printable characters without them. -/
theorem of_quotesOf_single (single : quotesOf text = .single) :
    '\'' ∉ text ∧ ∀ c ∈ text, isPrintable c = true := by
  rw [quotesOf] at single
  split_ifs at single with control _ _ plain
  rw [Bool.and_eq_true, beq_iff_eq, Bool.not_eq_true', ← Bool.not_eq_true,
    List.contains_iff_mem] at plain
  refine ⟨not_mem_of_runs plain.1, fun c held => ?_⟩
  refine (isPrintable_of_any control c held).resolve_right ?_
  rintro rfl
  exact plain.2 held

/-- A text between three single quotes has no three of them in a row, and holds printable
characters and line feeds. -/
theorem of_quotesOf_tripleSingle (single : quotesOf text = .tripleSingle) :
    (runs '\'' text).1 ≤ 2 ∧ ∀ c ∈ text, isPrintable c = true ∨ c = '\n' := by
  rw [quotesOf] at single
  split_ifs at single with control _ _ _ _ few
  exact ⟨few, isPrintable_of_any control⟩

/-- A text that does not begin with three quotes is read between single ones. -/
theorem quotedText_of_short (double : ¬['"', '"', '"'] <+: text)
    (single : ¬['\'', '\'', '\''] <+: text) :
    quotedText text = (basicText text).or (literalText text) := by
  rw [← List.isPrefixOf_iff_prefix, Bool.not_eq_true] at double single
  rw [quotedText, Reader.bind_apply, Reader.ahead, double, Option.bind_some]
  dsimp only
  rw [if_neg Bool.false_ne_true, Reader.bind_apply, Reader.ahead, single, Option.bind_some]
  dsimp only
  rw [if_neg Bool.false_ne_true, Reader.orElse_apply]

/-- A text is read back from between double quotes, of which none follows them. -/
theorem quotedText_double (ends : rest.head? ≠ some '"') :
    quotedText ('"' :: (escaped false 0 text ++ '"' :: rest)) =
      some (String.ofList text, rest) := by
  have double : basicText ('"' :: (escaped false 0 text ++ '"' :: rest)) =
      some (String.ofList text, rest) := by
    rw [basicText, Reader.bind_apply, Reader.char_cons, Option.bind_some]
    change (readBasic _).bind _ = _
    rw [readBasic_escaped]
    rfl
  rw [quotedText_of_short, double, Option.some_or]
  · rintro ⟨more, same⟩
    have follow := (List.cons.inj same).2.symm
    cases text with
    | nil =>
      have second := (List.cons.inj follow).2
      exact ends (by rw [second]; rfl)
    | cons c text => exact escaped_ne_quote (fun _ => rfl) text _ _ follow
  · rintro ⟨more, same⟩
    cases same

/-- A text without single quotes is read back from between them. -/
theorem quotedText_single (ends : rest.head? ≠ some '\'') (unquoted : '\'' ∉ text)
    (printed : ∀ c ∈ text, isPrintable c = true) :
    quotedText ('\'' :: (text ++ '\'' :: rest)) = some (String.ofList text, rest) := by
  have literal : literalText ('\'' :: (text ++ '\'' :: rest)) =
      some (String.ofList text, rest) := by
    have content : ∀ c ∈ text, (isPrintable c && c != '\'') = true := fun c held => by
      rw [Bool.and_eq_true, bne_iff_ne]
      exact ⟨printed c held, fun same => unquoted (same ▸ held)⟩
    rw [literalText, Reader.bind_apply, Reader.char_cons, Option.bind_some, Reader.bind_apply,
      Reader.spanning_append content, Option.bind_some, Reader.bind_apply, Reader.char_cons]
    · rfl
    · rintro c first
      cases first
      rfl
  have double : basicText ('\'' :: (text ++ '\'' :: rest)) = .none := rfl
  rw [quotedText_of_short, double, Option.none_or, literal]
  · rintro ⟨more, same⟩
    cases same
  · rintro ⟨more, same⟩
    have follow := (List.cons.inj same).2.symm
    cases text with
    | nil =>
      have second := (List.cons.inj follow).2
      exact ends (by rw [second]; rfl)
    | cons c text =>
      have first := (List.cons.inj follow).1
      exact unquoted (first ▸ List.mem_cons_self)

/-- After three double quotes, a text is read without a line end at its beginning. -/
theorem quotedText_threeDouble (body : List Char) :
    quotedText ('"' :: '"' :: '"' :: body) =
      (readLongBasic (withoutLineEnd body)).map fun read => (String.ofList read.1, read.2) := by
  have opened : Reader.chars ['"', '"', '"'] ('"' :: '"' :: '"' :: body) = some ((), body) :=
    Reader.chars_append ['"', '"', '"'] body
  have three : ['"', '"', '"'].isPrefixOf ('"' :: '"' :: '"' :: body) = true := rfl
  rw [quotedText, Reader.bind_apply, Reader.ahead, three, Option.bind_some]
  dsimp only
  rw [if_pos rfl, Reader.bind_apply, opened]
  change (readLongBasic (withoutLineEnd body)).bind _ = _
  cases readLongBasic (withoutLineEnd body) <;> rfl

/-- After three single quotes, a text is read without a line end at its beginning. -/
theorem quotedText_threeSingle (body : List Char) :
    quotedText ('\'' :: '\'' :: '\'' :: body) =
      (readLongLiteral (withoutLineEnd body)).map fun read => (String.ofList read.1, read.2) := by
  have opened : Reader.chars ['\'', '\'', '\''] ('\'' :: '\'' :: '\'' :: body) =
      some ((), body) := Reader.chars_append ['\'', '\'', '\''] body
  have three : ['\'', '\'', '\''].isPrefixOf ('\'' :: '\'' :: '\'' :: body) = true := rfl
  have other : ['"', '"', '"'].isPrefixOf ('\'' :: '\'' :: '\'' :: body) = false := rfl
  rw [quotedText, Reader.bind_apply, Reader.ahead, other, Option.bind_some]
  dsimp only
  rw [if_neg Bool.false_ne_true, Reader.bind_apply, Reader.ahead, three, Option.bind_some]
  dsimp only
  rw [if_pos rfl, Reader.bind_apply, opened]
  change (readLongLiteral (withoutLineEnd body)).bind _ = _
  cases readLongLiteral (withoutLineEnd body) <;> rfl

/-- A line feed that is put before a text, because the text holds one, is taken away again. -/
theorem withoutLineEnd_lead (head : '\n' ∉ text → ∀ more, body ≠ '\n' :: more) :
    withoutLineEnd ((if text.contains '\n' then ['\n'] else []) ++ body) = body := by
  split
  next => rfl
  next unbroken =>
    rw [List.contains_iff_mem] at unbroken
    rw [List.nil_append, withoutLineEnd]
    exact fun more same => head unbroken more same

/-- A text without line feeds does not begin with one between double quotes. -/
theorem escaped_ne_lineEnd (unbroken : '\n' ∉ text) (after more : List Char) :
    escaped true 0 text ++ '"' :: after ≠ '\n' :: more := by
  cases text with
  | nil => exact nofun
  | cons c text =>
    by_cases quote : c = '"'
    · subst quote
      exact nofun
    · rw [escaped_cons quote, List.append_assoc]
      cases written true c with
      | named escape | coded escape => rw [escape]; exact nofun
      | plain escape =>
        rw [escape]
        exact fun same => unbroken ((List.cons.inj same).1 ▸ List.mem_cons_self)

/-- A text is read back from between three double quotes, of which none follows them. -/
theorem quotedText_tripleDouble (ends : rest.head? ≠ some '"') :
    quotedText ('"' :: '"' :: '"' :: ((if text.contains '\n' then ['\n'] else []) ++
      (escaped true 0 text ++ '"' :: '"' :: '"' :: rest))) = some (String.ofList text, rest) := by
  rw [quotedText_threeDouble, withoutLineEnd_lead fun unbroken => escaped_ne_lineEnd unbroken _,
    readLongBasic_escaped rest ends]
  rfl

/-- A text without three single quotes in a row is read back from between three of them, of which
none follows them. -/
theorem quotedText_tripleSingle (ends : rest.head? ≠ some '\'') (few : (runs '\'' text).1 ≤ 2)
    (allowed : ∀ c ∈ text, isPrintable c = true ∨ c = '\n') :
    quotedText ('\'' :: '\'' :: '\'' :: ((if text.contains '\n' then ['\n'] else []) ++
      (text ++ '\'' :: '\'' :: '\'' :: rest))) = some (String.ofList text, rest) := by
  have head : '\n' ∉ text → ∀ more, text ++ '\'' :: '\'' :: '\'' :: rest ≠ '\n' :: more := by
    intro unbroken more same
    cases text with
    | nil => cases same
    | cons c text => exact unbroken ((List.cons.inj same).1 ▸ List.mem_cons_self)
  rw [quotedText_threeSingle, withoutLineEnd_lead head, readLongLiteral_text ends few allowed]
  rfl

/-- A text is read back from how it is saved, if no quote follows it. -/
theorem quotedText_textChars (content : String)
    (ends : ∀ c ∈ rest.head?, c ≠ '"' ∧ c ≠ '\'') :
    quotedText (textChars content ++ rest) = some (content, rest) := by
  have double : rest.head? ≠ some '"' := fun first => (ends _ first).1 rfl
  have single : rest.head? ≠ some '\'' := fun first => (ends _ first).2 rfl
  obtain ⟨text, rfl⟩ : ∃ text, String.ofList text = content := ⟨_, String.ofList_toList⟩
  rw [textChars, String.toList_ofList]
  cases quotes : quotesOf text with
  | double => simpa [Quotes.chars, Quotes.isMultiline] using @quotedText_double text _ double
  | single =>
    obtain ⟨unquoted, printed⟩ := of_quotesOf_single quotes
    simpa [Quotes.chars, Quotes.isMultiline] using quotedText_single single unquoted printed
  | tripleDouble =>
    simpa [Quotes.chars, Quotes.isMultiline] using @quotedText_tripleDouble text _ double
  | tripleSingle =>
    obtain ⟨few, allowed⟩ := of_quotesOf_tripleSingle quotes
    simpa [Quotes.chars, Quotes.isMultiline] using quotedText_tripleSingle single few allowed

end Quoted

section LineEnds

/-- No escape holds a carriage return. -/
theorem not_mem_escape (multiline : Bool) (c : Char) :
    '\r' ∉ (escape? multiline c).getD [c] := by
  have digit : ∀ value < 16, '\r' ≠ upperHexDigit value := by decide
  intro held
  cases written multiline c with
  | named escape means =>
    rw [escape, Option.getD_some, List.mem_cons, List.mem_singleton] at held
    rcases held with held | rfl
    · cases held
    · cases means
  | coded escape small =>
    rw [escape, Option.getD_some] at held
    simp only [List.mem_cons, List.not_mem_nil, or_false] at held
    rcases held with held | held | held | held | held | held
    any_goals cases held
    · exact digit _ (by omega) held
    · exact digit _ (by omega) held
  | plain escape other allowed =>
    rw [escape, Option.getD_none, List.mem_singleton] at held
    subst held
    rcases allowed with printed | ⟨-, line⟩
    · cases printed
    · cases line

/-- No carriage return stands in a text with escapes. -/
theorem not_mem_escaped (multiline : Bool) (start : Nat) (text : List Char) :
    '\r' ∉ escaped multiline start text := by
  induction text generalizing start with
  | nil => exact List.not_mem_nil
  | cons c text ih =>
    by_cases quote : c = '"'
    · subst quote
      rw [escaped]
      split <;> simp [ih]
    · rw [escaped_cons quote, List.mem_append, not_or]
      exact ⟨not_mem_escape multiline c, ih 0⟩

/-- No carriage return stands in a saved text. -/
theorem not_mem_textChars (content : String) : '\r' ∉ textChars content := by
  have printed {text : List Char} (allowed : ∀ c ∈ text, isPrintable c = true ∨ c = '\n') :
      '\r' ∉ text := fun held => by
    rcases allowed _ held with printed | line
    · cases printed
    · cases line
  rw [textChars]
  cases quotes : quotesOf content.toList with
  | double => simp [Quotes.chars, Quotes.isMultiline, not_mem_escaped]
  | tripleDouble => simp [Quotes.chars, Quotes.isMultiline, not_mem_escaped]
  | single =>
    have lineless := printed fun c held => .inl ((of_quotesOf_single quotes).2 c held)
    simp [Quotes.chars, Quotes.isMultiline, lineless]
  | tripleSingle =>
    have lineless := printed (of_quotesOf_tripleSingle quotes).2
    simp [Quotes.chars, Quotes.isMultiline, lineless]

end LineEnds

end SchemaProjection.Toml
