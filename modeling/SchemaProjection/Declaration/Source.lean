import SchemaProjection.Declaration.Format
import SchemaProjection.Format.Json
import SchemaProjection.Format.Toml

/-!
# Texts of documents

A document of declarations is written in JSON or in TOML.
-/
namespace SchemaProjection

/-- How a document is written. -/
inductive Encoding where
  /-- In JSON. -/
  | json
  /-- In TOML. -/
  | toml
deriving Repr, DecidableEq

namespace Encoding

/-- The name of an encoding. -/
def name : Encoding → String
  | .json => "JSON"
  | .toml => "TOML"

/-- The encoding of the files with an extension, if they are documents. -/
def ofExtension? (extension : String) : Option Encoding :=
  if extension = "json" then some .json
  else if extension = "toml" then some .toml
  else none

end Encoding

/-- Why a text is no document. -/
inductive DocumentFault where
  /-- The JSON text is refused. -/
  | json (refusal : Json.Refusal)
  /-- The TOML text is refused. -/
  | toml
deriving Repr, DecidableEq

/-- Read a document. -/
def Document.ofText (encoding : Encoding) (text : String) : Except DocumentFault Document :=
  match encoding with
  | .json => (Document.format.ofJsonText text).mapError .json
  | .toml =>
    match Document.format.ofTomlText text with
    | some document => .ok document
    | none => .error .toml

end SchemaProjection
