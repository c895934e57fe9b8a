import SchemaProjection.Yaml.Token

/-!
# Nodes of a YAML text

A text holds at most one document, whose root is a node: a scalar, a sequence or a mapping. The
words of a plain scalar tell what it is unless a tag does; any other scalar is a text. An alias
stands for the node that bears its name.
-/
namespace SchemaProjection.Yaml

/-- A value of a document. -/
inductive Node where
  /-- A scalar that is no value of its tag, or an alias inside the node that it names. -/
  | invalid
  /-- The missing value. -/
  | missing
  /-- A truth value. -/
  | bool (value : Bool)
  /-- A whole number. -/
  | integer (value : Int)
  /-- The numeral of another number. -/
  | real (numeral : String)
  /-- A text. -/
  | text (content : String)
  /-- Items in order. -/
  | sequence (items : List Node)
  /-- Keys with values in order. -/
  | mapping (entries : List (Node × Node))
deriving Repr, Inhabited

namespace Node

/-- The names of numbers that are not finite. -/
def realNames : List String :=
  [".inf", ".Inf", ".INF", "+.inf", "+.Inf", "+.INF", "-.inf", "-.Inf", "-.INF", ".nan", "NaN",
    ".NAN"]

/-- Whether a plain scalar is a number that is not whole. -/
def isReal (content : String) : Bool :=
  realNames.contains content || (Number.doubleOf? content.toList).isSome

/-- The whole number that a plain scalar is: in base sixteen or eight behind a mark, and in base
ten with one plus sign more than a numeral has. -/
def whole? (content : String) : Option Int :=
  let plain := match content.toList with
    | '0' :: 'x' :: digits => Text.Reader.whole? (Number.wordNumeral 16) digits
    | '0' :: 'o' :: digits => Text.Reader.whole? (Number.wordNumeral 8) digits
    | '+' :: digits => Number.wordOf? digits
    | _ => none
  plain.or (Number.wordOf? content.toList)

/-- What a plain scalar without a tag is. -/
def ofPlain (content : String) : Node :=
  match content, whole? content with
  | "~", _ | "null", _ => .missing
  | "true", _ => .bool true
  | "false", _ => .bool false
  | _, some value => .integer value
  | _, none => if isReal content then .real content else .text content

/-- What a plain scalar of a tag in the namespace of the format is. -/
def ofTagged (suffix content : String) : Node :=
  match suffix with
  | "bool" =>
    if content = "true" then .bool true else if content = "false" then .bool false else .invalid
  | "int" => ((Number.wordOf? content.toList).map integer).getD .invalid
  | "float" => if isReal content then .real content else .invalid
  | "null" => if content = "~" || content = "null" then .missing else .invalid
  | _ => .text content

/-- The node of a scalar with a tag, if it has one. -/
def ofScalar (isPlain : Bool) (content : String) (tag : Option (String × String)) : Node :=
  if !isPlain then .text content
  else match tag with
    | none => ofPlain content
    | some (handle, suffix) => if handle = "!!" then ofTagged suffix content else .text content

/-- The keys and values of a mapping. An invalid node is no key. -/
def pairs : List Node → List (Node × Node)
  | .invalid :: rest => pairs rest
  | key :: value :: rest => (key, value) :: pairs rest
  | _ => []

end Node

/-- The tokens that are left, and the nodes that bear names so far, of which each is known once
it has ended. -/
structure Remainder where
  /-- The tokens. -/
  tokens : List Token
  /-- The names in their order, with their nodes. -/
  anchors : Array (String × Option Node)

/-- Takes a value from the front of a list of tokens, or refuses. -/
abbrev NodeReader := StateT Remainder Option

namespace NodeReader

/-- The next token. -/
def next : NodeReader (Option Token) := do return (← get).tokens.head?

/-- Pass the next token. -/
def skip : NodeReader Unit :=
  modify fun remainder => { remainder with tokens := remainder.tokens.drop 1 }

/-- Whether the next token is one of several. -/
def nextIs (tokens : List Token) : NodeReader Bool := do return (← next).any tokens.contains

/-- Take a given token. -/
def expect (token : Token) : NodeReader Unit := do
  if ← nextIs [token] then skip else failure

/-- The node of a name: the last one that bears it. -/
def named (name : String) : NodeReader Node := do
  match (← get).anchors.toList.reverse.lookup name with
  | some node => return node.getD .invalid
  | none => failure

/-- Give a name to the node that begins, and tell its number. -/
def anchor (name : String) : NodeReader Nat := do
  let anchors := (← get).anchors
  modify fun remainder => { remainder with anchors := anchors.push (name, none) }
  return anchors.size

/-- Take the anchor and the tag before a node, in either order. -/
def properties : NodeReader (Option Nat × Option (String × String)) := do
  match ← next with
  | some (.anchor name) =>
    skip
    let number ← anchor name
    match ← next with
    | some (.tag handle suffix) =>
      skip
      return (some number, some (handle, suffix))
    | _ => return (some number, none)
  | some (.tag handle suffix) =>
    skip
    match ← next with
    | some (.anchor name) =>
      skip
      return (some (← anchor name), some (handle, suffix))
    | _ => return (none, some (handle, suffix))
  | _ => return (none, none)

/-- Keep the node of an anchor. -/
def keep (number : Option Nat) (node : Node) : NodeReader Unit :=
  match number with
  | none => pure ()
  | some number => modify fun remainder =>
    { remainder with
      anchors := remainder.anchors.modify number fun entry => (entry.1, some node) }

/-- Take what `item` takes, or the missing value if one of several tokens is next. -/
def orMissing (tokens : List Token) (item : NodeReader Node) : NodeReader Node := do
  if ← nextIs tokens then return .missing else item

mutual

/-- Take a node, with fuel for each step. Collections in lines are taken where `inLines` holds,
and entries of a sequence that is not indented where `inMapping` holds. -/
def node (inLines inMapping : Bool) : Nat → NodeReader Node
  | 0 => failure
  | fuel + 1 => do
    if let some (.alias name) ← next then
      skip
      named name
    else
      let (number, tag) ← properties
      let content ← match ← next, inLines with
        | some (.scalar isPlain content), _ => do
          skip
          pure (Node.ofScalar isPlain content tag)
        | some .openSequence, _ => do
          skip
          Node.sequence <$> flowItems true fuel
        | some .openMapping, _ => do
          skip
          (fun nodes => Node.mapping (Node.pairs nodes)) <$> flowMembers true fuel
        | some .blockSequence, true => do
          skip
          Node.sequence <$> blockItems fuel
        | some .blockMapping, true => do
          skip
          (fun nodes => Node.mapping (Node.pairs nodes)) <$> blockMembers fuel
        | some .blockEntry, _ =>
          if inMapping then Node.sequence <$> bareItems fuel
          else if number.isSome || tag.isSome then pure (Node.ofScalar true "" tag)
          else failure
        | _, _ =>
          if number.isSome || tag.isSome then pure (Node.ofScalar true "" tag) else failure
      keep number content
      return content

/-- Take the items of a sequence in lines. -/
def blockItems : Nat → NodeReader (List Node)
  | 0 => failure
  | fuel + 1 => do
    if ← nextIs [.blockEnd] then
      skip
      return []
    expect .blockEntry
    let item ← orMissing [.blockEntry, .blockEnd] (node true false fuel)
    return item :: (← blockItems fuel)

/-- Take the items of a sequence that is not indented. -/
def bareItems : Nat → NodeReader (List Node)
  | 0 => failure
  | fuel + 1 => do
    if ← nextIs [.blockEntry] then
      skip
      let item ← orMissing [.blockEntry, .key, .value, .blockEnd] (node true false fuel)
      return item :: (← bareItems fuel)
    else return []

/-- Take the keys and the values of a mapping in lines. -/
def blockMembers : Nat → NodeReader (List Node)
  | 0 => failure
  | fuel + 1 => do
    if ← nextIs [.blockEnd] then
      skip
      return []
    let edges := [Token.key, .value, .blockEnd]
    let key ← orMissing [.value] do
      expect .key
      orMissing edges (node true true fuel)
    let value ← if ← nextIs [.value] then do
        skip
        orMissing edges (node true true fuel)
      else pure .missing
    return key :: value :: (← blockMembers fuel)

/-- Take the value of a key inside brackets that end in a token. -/
def flowValue (close : Token) : Nat → NodeReader Node
  | 0 => failure
  | fuel + 1 => do
    if ← nextIs [.value] then
      skip
      orMissing [.flowEntry, close] (node false false fuel)
    else return .missing

/-- Take the keys and the values of a mapping between braces. -/
def flowMembers (isFirst : Bool) : Nat → NodeReader (List Node)
  | 0 => failure
  | fuel + 1 => do
    if !isFirst && !(← nextIs [.closeMapping]) then expect .flowEntry
    if ← nextIs [.closeMapping] then
      skip
      return []
    if ← nextIs [.key, .value] then
      let key ← orMissing [.value] do
        expect .key
        orMissing [.value, .flowEntry, .closeMapping] (node false false fuel)
      let value ← flowValue .closeMapping fuel
      return key :: value :: (← flowMembers false fuel)
    else
      let key ← node false false fuel
      return key :: .missing :: (← flowMembers false fuel)

/-- Take the items of a sequence between brackets. A key with its value is a mapping. -/
def flowItems (isFirst : Bool) : Nat → NodeReader (List Node)
  | 0 => failure
  | fuel + 1 => do
    if !isFirst && !(← nextIs [.closeSequence]) then expect .flowEntry
    if ← nextIs [.closeSequence] then
      skip
      return []
    if ← nextIs [.key] then
      skip
      let key ← if ← nextIs [.value, .flowEntry, .closeSequence] then do
          skip
          pure .missing
        else node false false fuel
      let value ← flowValue .closeSequence fuel
      return .mapping (Node.pairs [key, value]) :: (← flowItems false fuel)
    else
      let item ← node false false fuel
      return item :: (← flowItems false fuel)

end

/-- Take the tokens before a document that begins with a mark: directives and the mark. -/
def documentStart : Nat → NodeReader Unit
  | 0 => failure
  | fuel + 1 => do
    if ← nextIs [.directive] then
      skip
      documentStart fuel
    else expect .documentStart

/-- Take the root of a text, which is a mapping without entries if there is no document. -/
def document (fuel : Nat) : NodeReader Node := do
  let root := node true false fuel
  if (← next).isNone then return .mapping []
  if ← nextIs [.directive, .documentStart] then
    documentStart fuel
    if (← next).isNone then return .missing
    orMissing [.directive, .documentStart, .documentEnd] root
  else root

end NodeReader

/-- The root of the only document of a text. -/
def Node.ofText? (text : String) : Option Node := do
  let tokens ← tokens? text
  let (root, remainder) ← NodeReader.document (4 * tokens.length + 8) ⟨tokens, #[]⟩
  if remainder.tokens.all (· == .documentEnd) then return root else failure

end SchemaProjection.Yaml
