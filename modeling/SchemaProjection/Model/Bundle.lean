import SchemaProjection.Declaration.Source
import SchemaProjection.File.Tree
import SchemaProjection.Model
import SchemaProjection.Text.Utf8

/-!
# Bundles of documents

A bundle is the model of all documents below a directory. They are read in the order of their
paths, each before the next is looked at, and the checksum is that of their contents one after
the other. Files with other extensions, files under a skipped beginning and, where beginnings are
listed, files under none of them are passed over.
-/
namespace SchemaProjection

/-- `LoadConfig` — which files of a directory are read, by how their paths inside it begin. -/
structure LoadRules where
  /-- `skip_prefixes`: beginnings that are skipped. -/
  skipped : List String
  /-- `include_prefixes`: beginnings of which a path must have one, unless there are none. -/
  included : List String
deriving Repr, DecidableEq

namespace LoadRules

/-- `LoadConfig::default` — build results, version control and packages are skipped. -/
def standard : LoadRules := ⟨["target/", ".git/", "node_modules/"], []⟩

/-- Whether a file of a path inside the directory is read. -/
def admits (rules : LoadRules) (relative : String) : Bool :=
  (rules.included.isEmpty || rules.included.any fun beginning => Text.begins beginning relative) &&
    !rules.skipped.any fun beginning => Text.begins beginning relative

end LoadRules

/-- Why a bundle cannot be loaded. -/
inductive LoadFault where
  /-- A file is not text. -/
  | unreadable (path : String)
  /-- A file is no document. -/
  | malformed (encoding : Encoding) (path : String)
  /-- A type is declared again. -/
  | duplicate (again : Model.Duplicate) (path : String)
deriving Repr, DecidableEq

/-- The message of a fault. -/
def LoadFault.message : LoadFault → String
  | .unreadable path => s!"Failed to read {path}: no valid UTF-8"
  | .malformed encoding path => s!"Failed to parse {encoding.name} in {path}"
  | .duplicate again path => s!"{again.message} (in {path})"

/-- A file that holds a document. -/
structure SourceFile where
  /-- The path of the file. -/
  path : String
  /-- How the document is written. -/
  encoding : Encoding
  /-- The bytes of the file. -/
  content : List UInt8
deriving Repr, DecidableEq

/-- A path followed by another one. -/
def pathBelow (directory relative : String) : String :=
  if relative.isEmpty then directory
  else if directory.isEmpty || directory.toList.getLast? = some '/' then directory ++ relative
  else directory ++ "/" ++ relative

namespace LoadRules

/-- The document in a file below a directory, if the file is read. -/
def sourceFile? (rules : LoadRules) (directory : String) (names : List String)
    (content : List UInt8) : Option SourceFile := do
  let relative := Text.joined "/" names
  let path := pathBelow directory relative
  let extension ← (FileTree.parts path).getLast?.bind extension?
  let encoding ← Encoding.ofExtension? extension
  if rules.admits relative then some ⟨path, encoding, content⟩ else none

/-- The documents below a directory in the order of their paths. -/
def sourceFiles (rules : LoadRules) (directory : String) (tree : FileTree) : List SourceFile :=
  tree.walk.filterMap fun (names, content) => rules.sourceFile? directory names content

end LoadRules

namespace Model

/-- The body of the loop in `load_from_directory` — add the types of a file, and its bytes to those
that were read. -/
def addFile (loaded : Model × List UInt8) (file : SourceFile) :
    Except LoadFault (Model × List UInt8) := do
  let text ← match Text.decoded? file.content with
    | some text => .ok text
    | none => .error (.unreadable file.path)
  let document ← match Document.ofText file.encoding text with
    | .ok document => .ok document
    | .error _ => .error (.malformed file.encoding file.path)
  match loaded.1.extend document with
  | (_, some duplicate) => .error (.duplicate duplicate file.path)
  | (model, none) => .ok (model, loaded.2 ++ file.content)

/-- Add the types of files in order, up to the first that is refused. -/
def addFiles (loaded : Model × List UInt8) : List SourceFile →
    Except LoadFault (Model × List UInt8)
  | [] => .ok loaded
  | file :: rest => do
    let more ← addFile loaded file
    addFiles more rest

/-- `load_from_directory` — the model of all documents of a directory; a directory that is missing
holds none. -/
def ofDirectory (rules : LoadRules) (directory : String) (tree : Option FileTree) :
    Except LoadFault Model := do
  let files := (tree.map (rules.sourceFiles directory)).getD []
  let (model, bytes) ← addFiles (empty, []) files
  .ok { model with checksum := some (.ofBytes bytes) }

end Model

end SchemaProjection
