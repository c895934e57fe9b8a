import SchemaProjection.Digest.Hasher
import SchemaProjection.Format

/-!
# Checksums

A checksum stands for the documents a model was read from: the SHA-256 digest of their bytes
in hexadecimal. A checksum may also be any text that was stored in place of one, so it is not
always a digest.
-/
namespace SchemaProjection

/-- `Checksum` — a checksum, which is a text. -/
structure Checksum where
  /-- The hexadecimal digits of a digest, or the text that was stored. -/
  text : String
deriving Repr, DecidableEq

namespace Checksum

/-- `Checksum::from_bytes` — the checksum of a sequence of bytes. -/
def ofBytes (bytes : List UInt8) : Checksum := ⟨Digest.hex (Digest.sha256 bytes)⟩

/-- The bytes of a text. -/
def textBytes (text : String) : List UInt8 := text.toUTF8.toList

/-- `Checksum::from_content` — the checksum of a text. -/
def ofContent (content : String) : Checksum := ofBytes (textBytes content)

/-- `Checksum::from_hasher` — the checksum of the bytes that a hasher has taken in. -/
def ofHasher (hasher : Digest.Hasher) : Checksum := ⟨Digest.hex hasher.finish⟩

/-- The number of bytes of the short form. -/
def shortLength : Nat := 12

/-- The first characters of a text that take up exactly a number of bytes, none when the number
ends inside a character. -/
def takeBytes : Nat → List Char → Option (List Char)
  | 0, _ => some []
  | _ + 1, [] => none
  | count + 1, c :: rest =>
    if c.utf8Size ≤ count + 1 then (takeBytes (count + 1 - c.utf8Size) rest).map (c :: ·) else none

/-- `Checksum::short` — the first twelve bytes of a checksum, or all of it when it is shorter. There
is no short form when the twelfth byte is not the end of a character. -/
def short? (checksum : Checksum) : Option String :=
  (takeBytes (min shortLength checksum.text.utf8ByteSize) checksum.text.toList).map String.ofList

/-- The format of checksums, which stand as their texts. -/
def format : Format Checksum := .phrase (fun text => .ok ⟨text⟩) Checksum.text

/-- `Checksum::verify` — whether a content has the checksum. -/
def verifies (checksum : Checksum) (content : String) : Bool := ofContent content == checksum

end Checksum

end SchemaProjection
