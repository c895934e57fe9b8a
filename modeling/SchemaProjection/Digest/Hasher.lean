import SchemaProjection.Digest.Sha256

/-!
# Hashing part by part

A hasher takes in a sequence of bytes in parts of any length. It absorbs a block as soon as all its
bytes are there, keeps the bytes of the block that is not complete, and counts all bytes, as the
padding tells their number.
-/
namespace SchemaProjection.Digest

/-- The number of bytes of a block. -/
def blockSize : Nat := 64

/-- The state after the complete blocks of a sequence of bytes, and the bytes after them. -/
def absorbBlocks (state : State) (bytes : List UInt8) : State × List UInt8 :=
  if blockSize ≤ bytes.length then
    absorbBlocks (absorb state (words (bytes.take blockSize))) (bytes.drop blockSize)
  else (state, bytes)
termination_by bytes.length
decreasing_by simp only [List.length_drop, blockSize] at *; omega

/-- Less than a block is left. -/
theorem absorbBlocks_rest_short (state : State) (bytes : List UInt8) :
    (absorbBlocks state bytes).2.length < blockSize := by
  fun_induction absorbBlocks state bytes with
  | case1 _ _ _ ih => exact ih
  | case2 _ _ short => exact Nat.lt_of_not_le short

/-- What is known of the bytes that have been taken in. -/
structure Hasher where
  /-- The state after the complete blocks. -/
  state : State
  /-- The bytes after them. -/
  pending : List UInt8
  /-- The number of all bytes. -/
  length : Nat
  /-- The last block is not complete. -/
  short : pending.length < blockSize
deriving Repr, DecidableEq

namespace Hasher

/-- Nothing has been taken in. -/
def start : Hasher := ⟨initial, [], 0, by decide⟩

/-- Take in a part. -/
def feed (hasher : Hasher) (part : List UInt8) : Hasher :=
  let bytes := hasher.pending ++ part
  ⟨(absorbBlocks hasher.state bytes).1, (absorbBlocks hasher.state bytes).2,
    hasher.length + part.length, absorbBlocks_rest_short hasher.state bytes⟩

/-- The digest of all bytes: those after the complete blocks are padded. -/
def finish (hasher : Hasher) : List UInt8 :=
  let final := absorbAll hasher.state (words (hasher.pending ++ padding hasher.length))
  [final.a, final.b, final.c, final.d, final.e, final.f, final.g, final.h].flatMap wordBytes

end Hasher

end SchemaProjection.Digest
