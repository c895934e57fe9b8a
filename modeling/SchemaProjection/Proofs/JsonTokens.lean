import SchemaProjection.Proofs.JsonText

/-!
# Tokens of texts that follow each other

A text literal ends at its quote, so what follows it has no part in it (`readText_append`). A
number ends at the first character that cannot continue it, so what follows has no part in it
either once there is such a character (`readNumber_append`). Hence a text whose last token is a
closing bracket is divided alike whatever follows it (`Token.Closed.tokens_append`), and blanks
are no part of any token (`tokens_of_blank`).
-/
namespace SchemaProjection.Json

variable {text rest : List Char} {c : Char}

/-- A text that is read up to its quote does not come to begin with the escape of a unit. -/
theorem unescaped_append {read : Option (List Char) × List Char} (ends : readText text = some read)
    (alone : ∀ a b c d behind, text ≠ '\\' :: 'u' :: a :: b :: c :: d :: behind)
    (more : List Char) (a b c d : Char) (behind : List Char) :
    text ++ more ≠ '\\' :: 'u' :: a :: b :: c :: d :: behind := by
  intro same
  have unnamed : simpleEscape? 'u' = none := by decide
  match text with
  | [] => cases ends
  | [_] | [_, _] | [_, _, _] | [_, _, _, _] | [_, _, _, _, _] => simp_all [readText]
  | _ :: _ :: a :: b :: c :: d :: behind =>
    simp only [List.cons_append, List.cons.injEq] at same
    exact alone a b c d behind (by rw [same.1, same.2.1])

/-- A text literal ends at its quote whatever follows. -/
theorem readText_append {content : Option (List Char)} (read : readText text = some (content, rest))
    (more : List Char) : readText (text ++ more) = some (content, rest ++ more) := by
  fun_induction readText text generalizing content rest with
  | case1 | case3 | case4 | case10 | case12 => cases read
  | case2 =>
    cases read
    rfl
  | case5 a b c d unit first leading e f g h behind other second trailing ih =>
    obtain ⟨_, found, same⟩ := Option.map_eq_some_iff.mp read
    cases same
    simp only [List.cons_append]
    rw [readText, first]
    simp only [leading, second, trailing, ih found, ↓reduceIte]
    rfl
  | case6 a b c d unit first leading e f g h behind other second trailing ih =>
    obtain ⟨_, found, same⟩ := Option.map_eq_some_iff.mp read
    cases same
    have escape := ih found
    simp only [List.cons_append] at escape ⊢
    rw [readText, first]
    simp only [leading, second, trailing, escape, ↓reduceIte]
    rfl
  | case7 a b c d unit first leading behind alone ih =>
    obtain ⟨_, found, same⟩ := Option.map_eq_some_iff.mp read
    cases same
    have apart := unescaped_append found alone more
    simp only [List.cons_append]
    rw [readText]
    simp only [first, leading, ↓reduceIte, ih found]
    rfl
  | case8 a b c d behind unit first leading trailing ih =>
    obtain ⟨_, found, same⟩ := Option.map_eq_some_iff.mp read
    cases same
    simp [readText, first, leading, trailing, ih found]
  | case9 a b c d behind unit first leading trailing ih =>
    obtain ⟨_, found, same⟩ := Option.map_eq_some_iff.mp read
    cases same
    simp [readText, first, leading, trailing, ih found, prepend]
  | case11 letter behind short meant named ih =>
    obtain ⟨_, found, same⟩ := Option.map_eq_some_iff.mp read
    cases same
    simp only [List.cons_append]
    rw [readText_named named, ih found]
    rfl
  | case13 c behind quote unit letter kept ih =>
    obtain ⟨_, found, same⟩ := Option.map_eq_some_iff.mp read
    cases same
    have plain : 0x20 ≤ c.toNat ∧ c ≠ '\\' := by simpa using kept
    rw [List.cons_append, readText_plain quote plain.2 plain.1, ih found]
    rfl

/-- A run of digits that ends before the end of a text ends there whatever follows. -/
theorem digitRun_append (ends : afterDigits text ≠ []) (more : List Char) :
    digitRun (text ++ more) = digitRun text ∧
      afterDigits (text ++ more) = afterDigits text ++ more := by
  induction text with
  | nil => exact absurd rfl ends
  | cons c text ih =>
    simp only [afterDigits, digitRun, List.cons_append, List.takeWhile_cons,
      List.dropWhile_cons] at ends ih ⊢
    split
    case isTrue digit =>
      rw [if_pos digit] at ends
      obtain ⟨run, after⟩ := ih ends
      exact ⟨congrArg (c :: ·) run, after⟩
    case isFalse => exact ⟨rfl, rfl⟩

/-- A fraction that ends before the end of a text is read alike whatever follows. -/
theorem readFraction_append {digits : List Char} (read : readFraction text = some (digits, rest))
    (ends : rest ≠ []) (more : List Char) :
    readFraction (text ++ more) = some (digits, rest ++ more) := by
  cases text with
  | nil =>
    cases read
    exact absurd rfl ends
  | cons c inner =>
    by_cases point : c = '.'
    · subst point
      simp only [readFraction, List.cons_append] at read ⊢
      split at read
      case isTrue => cases read
      case isFalse digit =>
        cases read
        obtain ⟨run, after⟩ := digitRun_append ends more
        rw [run, after, if_neg digit]
    · have pointless (behind : List Char) :
          readFraction (c :: behind) = some ([], c :: behind) := by
        simp [readFraction, point]
      rw [pointless] at read
      cases read
      exact pointless (inner ++ more)

/-- The sign of an exponent is the same whatever follows the exponent. -/
theorem exponentSign_append (nonempty : text ≠ []) (more : List Char) :
    exponentSign (text ++ more) = ((exponentSign text).1, (exponentSign text).2 ++ more) := by
  obtain ⟨c, inner, rfl⟩ := List.exists_cons_of_ne_nil nonempty
  by_cases minus : c = '-'
  · subst minus
    rfl
  by_cases plus : c = '+'
  · subst plus
    rfl
  simp [exponentSign, minus, plus]

/-- An exponent that ends before the end of a text ends there whatever follows. -/
theorem readExponent_append {exponent : Option (Bool × List Char)}
    (read : readExponent text = some (exponent, rest)) (ends : rest ≠ []) (more : List Char) :
    readExponent (text ++ more) = some (exponent, rest ++ more) := by
  cases text with
  | nil =>
    cases read
    exact absurd rfl ends
  | cons c inner =>
    simp only [readExponent, List.cons_append] at read ⊢
    split at read
    case isTrue letter =>
      rw [if_pos letter]
      split at read
      case isTrue => cases read
      case isFalse digit =>
        cases read
        have nonempty : inner ≠ [] := by
          rintro rfl
          exact digit rfl
        obtain ⟨run, after⟩ := digitRun_append ends more
        simp only [exponentSign_append nonempty, run, after, if_neg digit]
    case isFalse letter =>
      cases read
      rw [if_neg letter]
      rfl

/-- A number without its sign that ends before the end of a text is read alike whatever follows. -/
theorem readUnsigned_append {negative : Bool} {number : Number}
    (read : readUnsigned negative text = some (number, rest)) (ends : rest ≠ [])
    (more : List Char) :
    readUnsigned negative (text ++ more) = some (number, rest ++ more) := by
  have ne_nil_of_le {shorter longer : List Char} (le : shorter.length ≤ longer.length)
      (nonempty : shorter ≠ []) : longer ≠ [] :=
    List.length_pos_iff.mp (Nat.lt_of_lt_of_le (List.length_pos_iff.mpr nonempty) le)
  simp only [readUnsigned] at read ⊢
  split at read
  case isTrue => cases read
  case isFalse digits =>
    simp only [Option.bind_eq_bind, Option.bind_eq_some_iff, Prod.exists, Option.some.injEq] at read
    obtain ⟨fraction, behindFraction, point, exponent, behindExponent, power, same⟩ := read
    cases same
    have further := ne_nil_of_le (readExponent_le power) ends
    obtain ⟨run, after⟩ := digitRun_append (ne_nil_of_le (readFraction_le point) further) more
    rw [run, after, if_neg digits, readFraction_append point further]
    simp only [Option.bind_eq_bind, Option.bind_some, readExponent_append power ends]

/-- A number that ends before the end of a text is read alike whatever follows. -/
theorem readNumber_append {number : Number} (read : readNumber text = some (number, rest))
    (ends : rest ≠ []) (more : List Char) :
    readNumber (text ++ more) = some (number, rest ++ more) := by
  cases text with
  | nil => cases read
  | cons c inner =>
    by_cases minus : c = '-'
    · subst minus
      have unsigned : readUnsigned true inner = some (number, rest) := read
      exact readUnsigned_append unsigned ends more
    · have unsigned (behind : List Char) :
          readNumber (c :: behind) = readUnsigned false (c :: behind) := by
        simp [readNumber, minus]
      rw [unsigned] at read
      rw [List.cons_append, unsigned]
      exact readUnsigned_append read ends more

/-- The characters that are blanks. -/
theorem isSpace_iff : isSpace c = true ↔ c = ' ' ∨ c = '\n' ∨ c = '\t' ∨ c = '\r' := by
  simp only [isSpace, Bool.or_eq_true, beq_iff_eq, or_assoc]

/-- A blank is no part of a token. -/
theorem tokens_space (space : isSpace c = true) (rest : List Char) :
    tokens (c :: rest) = tokens rest := by
  obtain rfl | rfl | rfl | rfl := isSpace_iff.mp space <;> rw [tokens, if_pos space] <;> nofun

/-- The token of a number is the number. -/
theorem tokens_number {number : Number} {behind : List Char}
    (read : readNumber (c :: rest) = some (number, behind)) :
    tokens (c :: rest) = .number number :: tokens behind := by
  have solid : ¬isSpace c = true := by
    intro space
    obtain rfl | rfl | rfl | rfl := isSpace_iff.mp space <;> cases read
  rw [tokens, if_neg solid]
  · split
    case h_1 same =>
      cases read.symm.trans same
      rfl
    case h_2 same => cases read.symm.trans same
  all_goals
    intros
    subst_vars
    cases read

/-- The token of a text literal is its content. -/
theorem tokens_text {content : Option (List Char)} {behind : List Char}
    (read : readText rest = some (content, behind)) :
    tokens ('"' :: rest) = .text (content.map String.ofList) :: tokens behind := by
  rw [tokens]
  split
  case h_1 same =>
    cases read.symm.trans same
    rfl
  case h_2 same => cases read.symm.trans same

namespace Token

/-- A bracket that closes an array or an object. -/
def Closes (token : Token) : Prop := token = .closeArray ∨ token = .closeObject

/-- No fault is among tokens, and the last of them is a closing bracket, if there is one. -/
structure Closed (tokens : List Token) : Prop where
  /-- There is no fault. -/
  whole : .fault ∉ tokens
  /-- The last token is a closing bracket. -/
  last : ∀ token ∈ tokens.getLast?, token.Closes

/-- Tokens without the first of them are closed if all of them are. -/
theorem Closed.tail {token : Token} {tokens : List Token} (closed : Closed (token :: tokens)) :
    Closed tokens := by
  refine ⟨fun fault => closed.whole (List.mem_cons_of_mem _ fault), ?_⟩
  intro last ends
  refine closed.last last ?_
  rw [Option.mem_def] at ends ⊢
  rw [List.getLast?_cons, ends]
  rfl

/-- A text that ends in a closing bracket or is blank is divided alike whatever follows it. -/
theorem Closed.tokens_append {text : List Char} (closed : Closed (Json.tokens text))
    (more : List Char) : Json.tokens (text ++ more) = Json.tokens text ++ Json.tokens more := by
  fun_induction Json.tokens text with
  | case1 => rfl
  | case2 rest ih | case3 rest ih | case4 rest ih | case5 rest ih | case6 rest ih | case7 rest ih
  | case8 rest ih | case9 rest ih | case10 rest ih =>
    simp only [List.cons_append, Json.tokens, ih closed.tail]
  | case11 rest content behind read _ ih =>
    rw [List.cons_append, tokens_text (readText_append read more), ih closed.tail]
    rfl
  | case12 => exact absurd List.mem_cons_self closed.whole
  | case13 c rest _ _ _ _ _ _ _ _ _ _ space ih =>
    rw [List.cons_append, tokens_space space, ih closed]
  | case14 c rest _ _ _ _ _ _ _ _ _ _ solid number behind read _ ih =>
    have ends : behind ≠ [] := by
      rintro rfl
      obtain bracket | bracket := closed.last (.number number) (by simp [Json.tokens]) <;>
        cases bracket
    have further : readNumber (c :: (rest ++ more)) = some (number, behind ++ more) :=
      readNumber_append read ends more
    rw [List.cons_append, tokens_number further, ih closed.tail]
    rfl
  | case15 => exact absurd List.mem_cons_self closed.whole

end Token

/-- The character of a bracket. -/
def Token.bracket? : Token → Option Char
  | .openArray => some '['
  | .closeArray => some ']'
  | .openObject => some '\x7b'
  | .closeObject => some '\x7d'
  | _ => none

/-- Where a bracket is the first token, it is the first character behind the blanks. -/
theorem exists_of_tokens_bracket {token : Token} {behind : List Token}
    (bracket : token.bracket? = some c) (divided : tokens text = token :: behind) :
    ∃ rest, text.dropWhile isSpace = c :: rest ∧ tokens rest = behind := by
  fun_induction tokens text with
  | case1 => cases divided
  | case2 rest | case3 rest | case4 rest | case5 rest =>
    obtain ⟨rfl, same⟩ := List.cons.inj divided
    cases bracket
    exact ⟨rest, rfl, same⟩
  | case13 c rest _ _ _ _ _ _ _ _ _ _ space ih =>
    rw [List.dropWhile_cons_of_pos space]
    exact ih divided
  | _ =>
    obtain ⟨rfl, -⟩ := List.cons.inj divided
    cases bracket

/-- Only blanks have no tokens. -/
theorem tokens_eq_nil_iff : tokens text = [] ↔ text.all isSpace = true := by
  fun_induction tokens text with
  | case1 => simp
  | case13 c rest _ _ _ _ _ _ _ _ _ _ space ih => simp [space, ih]
  | case14 c rest _ _ _ _ _ _ _ _ _ _ solid | case15 c rest _ _ _ _ _ _ _ _ _ _ solid =>
    simp [solid]
  | _ => simp [isSpace]

/-- Blanks before a text have no part in its tokens. -/
theorem tokens_of_blank (blank : text.all isSpace = true) (more : List Char) :
    tokens (text ++ more) = tokens more := by
  have empty := tokens_eq_nil_iff.mpr blank
  have closed : Token.Closed (tokens text) := by
    rw [empty]
    exact ⟨List.not_mem_nil, nofun⟩
  rw [closed.tokens_append, empty, List.nil_append]

end SchemaProjection.Json
