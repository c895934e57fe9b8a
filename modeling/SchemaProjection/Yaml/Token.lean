import SchemaProjection.Yaml.Scalar

/-!
# Tokens of a YAML text

`tokens?` divides a text into tokens. Indentation and the mark `:` behind a key give tokens of
their own: a collection in lines begins where its first entry or key begins, and ends where a
line begins further left. Whether a scalar is a key is known only at the mark behind it, so
the places where a key may begin are kept, and the tokens that begin one are put in there.
-/
namespace SchemaProjection.Yaml

/-- A part of a text. -/
inductive Token where
  /-- A directive. -/
  | directive
  /-- The mark before a document. -/
  | documentStart
  /-- The mark behind a document. -/
  | documentEnd
  /-- A sequence in lines begins. -/
  | blockSequence
  /-- A mapping in lines begins. -/
  | blockMapping
  /-- A collection in lines ends. -/
  | blockEnd
  /-- `[` -/
  | openSequence
  /-- `]` -/
  | closeSequence
  /-- An opening brace. -/
  | openMapping
  /-- A closing brace. -/
  | closeMapping
  /-- An entry of a sequence in lines begins. -/
  | blockEntry
  /-- `,` -/
  | flowEntry
  /-- A key begins. -/
  | key
  /-- The value of a key begins. -/
  | value
  /-- A node that stands elsewhere under a name. -/
  | alias (name : String)
  /-- A name for the node that follows. -/
  | anchor (name : String)
  /-- A tag of the node that follows: its handle and its suffix. -/
  | tag (handle suffix : String)
  /-- A scalar, and whether it is plain. -/
  | scalar (isPlain : Bool) (content : String)
deriving Repr, DecidableEq

/-- The name at a place, of which there is at least one character, and the place behind it. -/
def name? (cursor : Cursor) : Option (String × Cursor) :=
  let (name, after) := cursor.spanning isNameChar
  if name.isEmpty then none else some (String.ofList name, after)

/-- The name of an anchor at a place, and the place behind it. -/
def anchorName? (cursor : Cursor) : Option (String × Cursor) := do
  let (name, after) ← name? cursor
  let next := after.peek
  if isSpace next || ['?', ':', ',', ']', '\x7d', '%', '@', '\x60'].contains next then
    return (name, after)
  else failure

/-- A character of the suffix of a tag. -/
def isTagChar (c : Char) : Bool :=
  isNameChar c || [';', '/', '?', ':', '@', '&', '=', '+', '$', ',', '.', '!', '~', '*', '\'',
    '(', ')', '[', ']', '%'].contains c

/-- The suffix of a tag with the characters that its escapes name. -/
def unescapedTag? : List Char → Option (List Char)
  | [] => some []
  | '%' :: high :: low :: rest => do
    let high ← Number.hexValue? high
    let low ← Number.hexValue? low
    return Char.ofNat (high * 16 + low) :: (← unescapedTag? rest)
  | c :: rest => do
    if c == '%' then failure
    return c :: (← unescapedTag? rest)

/-- The suffix of a tag at a place, and the place behind it. -/
def tagSuffix? (cursor : Cursor) : Option (List Char × Cursor) := do
  let (suffix, after) := cursor.spanning isTagChar
  return (← unescapedTag? suffix, after)

/-- The handle of a tag at a place, and the place behind it. -/
def tagHandle? (cursor : Cursor) : Option (List Char × Cursor) := do
  if cursor.peek != '!' then failure
  let (name, after) := cursor.skip.spanning isNameChar
  if after.peek == '!' then return ('!' :: name ++ ['!'], after.skip)
  else return ('!' :: name, after)

/-- The tag at a place, and the place behind it. -/
def tag? (cursor : Cursor) : Option (Token × Cursor) := do
  let (handle, suffix, after) ← verbatim <|> handled
  if isSpace after.peek then
    return (.tag (String.ofList handle) (String.ofList suffix), after)
  else failure
where
  /-- A tag between angle brackets. -/
  verbatim : Option (List Char × List Char × Cursor) := do
    if cursor.peekAt 1 != '<' then failure
    let (suffix, after) ← tagSuffix? (cursor.skips 2)
    if suffix.isEmpty || after.peek != '>' then failure
    return ([], suffix, after.skip)
  /-- A tag with a handle. -/
  handled : Option (List Char × List Char × Cursor) := do
    if cursor.peekAt 1 == '<' then failure
    let (handle, after) ← tagHandle? cursor
    let (suffix, after) ← tagSuffix? after
    if handle.length ≥ 2 && handle.getLast? == some '!' then
      if suffix.isEmpty then failure
      return (handle, suffix, after)
    else
      let suffix := handle.drop 1 ++ suffix
      return if suffix.isEmpty then ([], ['!'], after) else (['!'], suffix, after)

/-- The place behind a number of a version. -/
def afterVersionNumber? (cursor : Cursor) : Option Cursor :=
  let (digits, after) := cursor.spanning Char.isDigit
  if digits.isEmpty || digits.length > 9 then none else some after

/-- The place behind the arguments of a directive. -/
def afterArguments? (name : String) (cursor : Cursor) : Option Cursor :=
  match name with
  | "YAML" => do
    let cursor ← afterVersionNumber? (cursor.skipWhile isBlank)
    if cursor.peek == '.' then afterVersionNumber? cursor.skip else failure
  | "TAG" => do
    let (handle, cursor) ← tagHandle? (cursor.skipWhile isBlank)
    if handle.length ≥ 2 && handle.getLast? != some '!' then failure
    let (suffix, cursor) ← tagSuffix? (cursor.skipWhile isBlank)
    if suffix.isEmpty || !isSpace cursor.peek then failure
    return cursor
  | _ => some (cursor.skipWhile (!isLineEnd ·))

/-- The place behind a directive and its line. -/
def afterDirective? (cursor : Cursor) : Option Cursor := do
  let (name, after) ← name? cursor.skip
  if !isSpace after.peek then failure
  (← afterArguments? name after).lineRest?

/-- A place where a key may begin. -/
structure KeyStart where
  /-- The number of tokens before it. -/
  place : Nat
  /-- The number of characters before it. -/
  index : Nat
  /-- Its line. -/
  line : Nat
  /-- Its column. -/
  column : Nat
  /-- A key must begin there. -/
  isRequired : Bool

/-- What is read of a text. -/
structure Lexer where
  /-- The place up to which it is read. -/
  cursor : Cursor
  /-- The tokens before that. -/
  tokens : Array Token
  /-- The last place where a key may begin, inside each bracket that is open, from the inside,
  and outside all. -/
  starts : List (Option KeyStart)
  /-- Whether a key may begin at this place. -/
  allowsKey : Bool
  /-- The column of the innermost collection in lines, and -1 outside all. -/
  indent : Int
  /-- The columns of the collections around it. -/
  outer : List Int
  /-- The place behind the last quoted scalar. -/
  quotedEnd : Option Nat

namespace Lexer

/-- Nothing is read. -/
def ofText (text : String) : Lexer := ⟨.ofText text, #[], [none], true, -1, [], none⟩

/-- Whether a bracket is open. -/
def inFlow (lexer : Lexer) : Bool := 1 < lexer.starts.length

/-- Put a token in. -/
def insert (lexer : Lexer) (place : Nat) (token : Token) : Lexer :=
  { lexer with tokens := lexer.tokens.insertIdxIfInBounds place token }

/-- Put a token at the end. -/
def push (lexer : Lexer) (token : Token) : Lexer :=
  { lexer with tokens := lexer.tokens.push token }

/-- Go on after a token that ends at a place. -/
def goOn (lexer : Lexer) (token : Token) (cursor : Cursor) : Lexer :=
  { lexer.push token with cursor := cursor }

/-- Tell whether a key may begin. -/
def allowing (lexer : Lexer) (allowsKey : Bool) : Lexer := { lexer with allowsKey := allowsKey }

/-- Begin a collection in lines at a column if it lies further right than the innermost one. -/
def indented (lexer : Lexer) (column place : Nat) (token : Token) : Lexer :=
  if lexer.inFlow || lexer.indent ≥ column then lexer
  else { lexer.insert place token with indent := column, outer := lexer.indent :: lexer.outer }

/-- End collections that lie further right than a column: the tokens before and behind, the column
of the innermost collection that is left, and those around it. -/
def ended (column : Int) (tokens : Array Token) (indent : Int) :
    List Int → Array Token × Int × List Int
  | [] => (tokens, indent, [])
  | next :: outer =>
    if indent > column then ended column (tokens.push .blockEnd) next outer
    else (tokens, indent, next :: outer)

/-- End the collections in lines that lie further right than a column. -/
def unindented (lexer : Lexer) (column : Int) : Lexer :=
  if lexer.inFlow then lexer
  else
    let (tokens, indent, outer) := ended column lexer.tokens lexer.indent lexer.outer
    { lexer with tokens := tokens, indent := indent, outer := outer }

/-- Forget the last place where a key may begin. None must be required there. -/
def dropStart? (lexer : Lexer) : Option Lexer :=
  match lexer.starts with
  | some start :: rest =>
    if start.isRequired then none else some { lexer with starts := none :: rest }
  | _ => some lexer

/-- Keep this place if a key may begin here. -/
def keepStart? (lexer : Lexer) : Option Lexer :=
  if lexer.allowsKey then do
    let lexer ← lexer.dropStart?
    let cursor := lexer.cursor
    let isRequired := !lexer.inFlow && lexer.indent == cursor.column
    let start : KeyStart :=
      ⟨lexer.tokens.size, cursor.index, cursor.line, cursor.column, isRequired⟩
    return { lexer with starts := some start :: lexer.starts.drop 1 }
  else some lexer

/-- The number of characters that a key may go over. -/
def keyLimit : Nat := 1024

/-- Forget the places where no key can begin any more, as a key stands on one line and is short.
None must be required there. -/
def dropStale? (lexer : Lexer) : Option Lexer := do
  let isStale (start : KeyStart) : Bool :=
    start.line < lexer.cursor.line || start.index + keyLimit < lexer.cursor.index
  let starts ← lexer.starts.mapM fun
    | some start =>
      if !isStale start then some (some start) else if start.isRequired then none else some none
    | none => some none
  return { lexer with starts := starts }

/-- Go on to the next token, with fuel for each character; behind a line end outside brackets a
key may begin. -/
def skipFilling : Nat → Lexer → Lexer
  | 0, lexer => lexer
  | fuel + 1, lexer =>
    let cursor := lexer.cursor
    let c := cursor.peek
    if c == ' ' || (c == '\t' && (lexer.inFlow || !lexer.allowsKey)) then
      skipFilling fuel { lexer with cursor := cursor.skip }
    else if isBreak c then
      skipFilling fuel
        { lexer with cursor := cursor.skipBreak, allowsKey := lexer.allowsKey || !lexer.inFlow }
    else if c == '#' then
      skipFilling fuel { lexer with cursor := cursor.skipWhile (!isLineEnd ·) }
    else lexer

/-- Take a directive or a mark between documents, which ends all collections in lines. -/
def outermost? (lexer : Lexer) (token : Token) (after : Cursor) : Option Lexer := do
  return ((← (lexer.unindented (-1)).dropStart?).allowing false).goOn token after

/-- Take an opening bracket. -/
def opened? (lexer : Lexer) (token : Token) : Option Lexer := do
  let lexer ← lexer.keepStart?
  if lexer.starts.length > 255 then failure
  let lexer := { lexer with starts := none :: lexer.starts }
  return (lexer.allowing true).goOn token lexer.cursor.skip

/-- Take a closing bracket. -/
def closed? (lexer : Lexer) (token : Token) : Option Lexer := do
  let lexer ← lexer.dropStart?
  let lexer := if lexer.inFlow then { lexer with starts := lexer.starts.drop 1 } else lexer
  return (lexer.allowing false).goOn token lexer.cursor.skip

/-- Take the mark of an entry in lines. -/
def entered? (lexer : Lexer) : Option Lexer := do
  if lexer.inFlow || !lexer.allowsKey then failure
  let lexer := lexer.indented lexer.cursor.column lexer.tokens.size .blockSequence
  return ((← lexer.dropStart?).allowing true).goOn .blockEntry lexer.cursor.skip

/-- Begin a mapping in lines at this place, where a key must be allowed. -/
def mapped? (lexer : Lexer) : Option Lexer :=
  if lexer.inFlow then some lexer
  else if lexer.allowsKey then
    some (lexer.indented lexer.cursor.column lexer.tokens.size .blockMapping)
  else none

/-- Take the mark before a key. -/
def keyed? (lexer : Lexer) : Option Lexer := do
  let lexer ← (← lexer.mapped?).dropStart?
  return (lexer.allowing !lexer.inFlow).goOn .key lexer.cursor.skip

/-- Take the mark before a value. If a key may begin at a place before, one does. -/
def valued? (lexer : Lexer) : Option Lexer := do
  let lexer ← match lexer.starts with
    | some start :: rest =>
      let lexer := { lexer.insert start.place .key with starts := none :: rest }
      pure ((lexer.indented start.column start.place .blockMapping).allowing false)
    | _ => do
      let lexer ← lexer.mapped?
      pure (lexer.allowing !lexer.inFlow)
  return lexer.goOn .value lexer.cursor.skip

/-- Take a token with which a key may begin. -/
def taken? (lexer : Lexer) (token : Cursor → Option (Token × Cursor)) : Option Lexer := do
  let lexer ← lexer.keepStart?
  let (token, after) ← token lexer.cursor
  return (lexer.allowing false).goOn token after

/-- Take a quoted scalar. -/
def quoted? (lexer : Lexer) (isSingle : Bool) : Option Lexer := do
  let lexer ← lexer.taken? fun cursor => do
    let (content, after) ← Yaml.quoted? isSingle (cursor.rest.length + 1) cursor.skip
    return (.scalar false (String.ofList content), after)
  return { lexer with quotedEnd := some lexer.cursor.index }

/-- Take a block of lines. -/
def block? (lexer : Lexer) (isLiteral : Bool) : Option Lexer := do
  let lexer ← lexer.taken? fun cursor => do
    let (content, after) ← Yaml.block? isLiteral lexer.indent cursor.skip
    return (.scalar false (String.ofList content), after)
  return lexer.allowing true

/-- Take a plain scalar. -/
def plain? (lexer : Lexer) : Option Lexer := do
  let lexer ← lexer.keepStart?
  let cursor := lexer.cursor
  let (content, after, broken) ←
    Yaml.plain? lexer.inFlow (lexer.indent + 1) (cursor.rest.length + 1) cursor
  return (lexer.allowing broken).goOn (.scalar true (String.ofList content)) after

/-- Take the token at this place. -/
def token? (lexer : Lexer) : Option Lexer :=
  let cursor := lexer.cursor
  let next := cursor.peekAt 1
  let atEdge := isSpace next
  let inFlow := lexer.inFlow
  if cursor.column == 0 && cursor.peek == '%' then do
    lexer.outermost? .directive (← afterDirective? cursor)
  else if cursor.atMark '-' then lexer.outermost? .documentStart (cursor.skips 3)
  else if cursor.atMark '.' then lexer.outermost? .documentEnd (cursor.skips 3)
  else match cursor.peek with
    | '[' => lexer.opened? .openSequence
    | '\x7b' => lexer.opened? .openMapping
    | ']' => lexer.closed? .closeSequence
    | '\x7d' => lexer.closed? .closeMapping
    | ',' => do
      return ((← lexer.dropStart?).allowing true).goOn .flowEntry cursor.skip
    | '-' => if atEdge then lexer.entered? else lexer.plain?
    | '?' => if atEdge then lexer.keyed? else lexer.plain?
    | ':' =>
      if atEdge || (inFlow && (isFlow next || lexer.quotedEnd == some cursor.index)) then
        lexer.valued?
      else lexer.plain?
    | '*' => lexer.taken? fun cursor => do
      let (name, after) ← anchorName? cursor.skip
      return (.alias name, after)
    | '&' => lexer.taken? fun cursor => do
      let (name, after) ← anchorName? cursor.skip
      return (.anchor name, after)
    | '!' => lexer.taken? tag?
    | '|' => if inFlow then lexer.plain? else lexer.block? true
    | '>' => if inFlow then lexer.plain? else lexer.block? false
    | '\'' => lexer.quoted? true
    | '"' => lexer.quoted? false
    | '%' | '@' | '\x60' => none
    | _ => lexer.plain?

/-- Take all tokens, with fuel for each. -/
def run? : Nat → Lexer → Option (Array Token)
  | 0, _ => none
  | fuel + 1, lexer => do
    let lexer ← (lexer.skipFilling (lexer.cursor.rest.length + 1)).dropStale?
    let lexer := lexer.unindented lexer.cursor.column
    if isEnd lexer.cursor.peek then
      return (← (lexer.unindented (-1)).dropStart?).tokens
    run? fuel (← lexer.token?)

end Lexer

/-- The tokens of a text. -/
def tokens? (text : String) : Option (List Token) :=
  let lexer := Lexer.ofText text
  (lexer.run? (lexer.cursor.rest.length + 1)).map Array.toList

end SchemaProjection.Yaml
