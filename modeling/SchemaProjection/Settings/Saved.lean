import SchemaProjection.Json.Value
import SchemaProjection.Settings

/-!
# Saved settings

Settings are saved as a TOML document with a table for each group. A text is written in the
plainest way that it allows: as it is between double quotes, between single quotes, between
three of either, and with escapes only where nothing else will do. A list of more than one item
has a line for each.
-/
namespace SchemaProjection.Settings

/-- The characters between which a text is written. -/
inductive Quotes where
  /-- Double quotes, with escapes. -/
  | double
  /-- Single quotes. -/
  | single
  /-- Three double quotes, with escapes. -/
  | tripleDouble
  /-- Three single quotes. -/
  | tripleSingle
deriving Repr, DecidableEq

namespace Quotes

/-- The quotes themselves. -/
def chars : Quotes → List Char
  | .double => ['"']
  | .single => ['\'']
  | .tripleDouble => ['"', '"', '"']
  | .tripleSingle => ['\'', '\'', '\'']

/-- Whether a text between these quotes may go over several lines. -/
def isMultiline : Quotes → Bool
  | .double | .single => false
  | .tripleDouble | .tripleSingle => true

end Quotes

/-- A control character that stands in no text as it is. -/
def isControl (c : Char) : Bool := (c.toNat < 0x20 && c != '\t' && c != '\n') || c.toNat == 0x7F

/-- The length of the longest run of a character, and of the one at the beginning. -/
def runs (mark : Char) : List Char → Nat × Nat
  | [] => (0, 0)
  | c :: rest =>
    let (longest, first) := runs mark rest
    if c = mark then (max longest (first + 1), first + 1) else (longest, 0)

/-- The quotes of a text. -/
def quotesOf (text : List Char) : Quotes :=
  let doubles := (runs '"' text).1
  let singles := (runs '\'' text).1
  let escape := text.contains '\\'
  let newline := text.contains '\n'
  if text.any isControl then if newline then .tripleDouble else .double
  else if !escape && doubles == 0 && !newline then .double
  else if singles == 0 && !newline then .single
  else if !escape && doubles ≤ 2 then .tripleDouble
  else if singles ≤ 2 then .tripleSingle
  else if newline then .tripleDouble
  else .double

/-- A hexadecimal digit in upper case. -/
def upperHexDigit (value : Nat) : Char := (Json.hexDigit value).toUpper

/-- The escape of a character other than a double quote, if it needs one. -/
def escape? (multiline : Bool) (c : Char) : Option (List Char) :=
  if c == '\\' then some ['\\', '\\']
  else if c == '\x08' then some ['\\', 'b']
  else if c == '\t' then some ['\\', 't']
  else if c == '\n' then if multiline then none else some ['\\', 'n']
  else if c == '\x0c' then some ['\\', 'f']
  else if c == '\r' then some ['\\', 'r']
  else if c.toNat < 0x20 || c.toNat == 0x7F then
    some ['\\', 'u', '0', '0', upperHexDigit (c.toNat / 16), upperHexDigit (c.toNat % 16)]
  else none

/-- A text with escapes, after a number of double quotes that stand as they are. Between three
quotes two of them may follow each other; every further one is escaped. -/
def escaped (multiline : Bool) (before : Nat) : List Char → List Char
  | [] => []
  | '"' :: rest =>
    if multiline && before < 2 then '"' :: escaped multiline (before + 1) rest
    else '\\' :: '"' :: escaped multiline 0 rest
  | c :: rest =>
    match escape? multiline c with
    | some characters => characters ++ escaped multiline 0 rest
    | none => c :: escaped multiline 0 rest

/-- A text as it is saved. -/
def textChars (content : String) : List Char :=
  let text := content.toList
  let quotes := quotesOf text
  let lead := if quotes.isMultiline && text.contains '\n' then ['\n'] else []
  let body := match quotes with
    | .double | .tripleDouble => escaped quotes.isMultiline 0 text
    | .single | .tripleSingle => text
  quotes.chars ++ lead ++ body ++ quotes.chars

/-- A text as it is saved. -/
def savedText (content : String) : String := String.ofList (textChars content)

/-- A list of texts as it is saved. -/
def savedList : List String → String
  | [] => "[]"
  | [only] => "[" ++ savedText only ++ "]"
  | items => "[\n" ++ String.join (items.map fun item => "    " ++ savedText item ++ ",\n") ++ "]"

/-- A named value on a line. -/
def savedLine (name value : String) : String := name ++ " = " ++ value ++ "\n"

/-- The content that `ProjectionConfig::save` writes — settings as a TOML document. -/
def saved (settings : Settings) : String :=
  let compiler := settings.compiler
  let declarations := settings.declarations
  "[compiler]\n" ++
    savedLine "method_prefix" (savedText compiler.methodLead) ++
    savedLine "extra_scalar_types" (savedList compiler.extraScalars) ++
    savedLine "suggest_fields" (toString compiler.suggestsFields) ++
    "\n[declarations]\n" ++
    savedLine "path" (savedText declarations.path) ++
    savedLine "skip_prefixes" (savedList declarations.rules.skipped) ++
    savedLine "include_prefixes" (savedList declarations.rules.included) ++
    "\n[output]\n" ++
    savedLine "format" (savedText settings.output.layout.name) ++
    savedLine "include_schema" (toString settings.output.includesSchema)

end SchemaProjection.Settings
