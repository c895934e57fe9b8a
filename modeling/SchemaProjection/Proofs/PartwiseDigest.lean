import SchemaProjection.Proofs.BundleChecksum

/-!
# Digests of parts

A hasher absorbs the complete blocks of what it has taken in and keeps the bytes after them, so
whatever follows is absorbed as behind all bytes (`Digest.Hasher.Holds`). Each part keeps this
(`Digest.Hasher.Holds.feed`), and at the end the padding follows. So a content has one checksum
however it is divided into parts (`Checksum.ofHasher_parts`), and that of a bundle is that of a
hasher that takes in the files one after the other (`Model.checksum_eq_ofHasher`).
-/
namespace SchemaProjection

namespace Digest

/-- Bytes of which four cannot be taken are fewer than four. -/
theorem length_lt_four {bytes : List UInt8} (few : ∀ first second third fourth rest,
    bytes = first :: second :: third :: fourth :: rest → False) : bytes.length < 4 := by
  match bytes with
  | [] | [_] | [_, _] | [_, _, _] => simp
  | first :: second :: third :: fourth :: rest =>
    exact (few first second third fourth rest rfl).elim

/-- Bytes that make up whole words are words of their own, whatever follows them. -/
theorem words_append {front : List UInt8} (whole : front.length % 4 = 0) (back : List UInt8) :
    words (front ++ back) = words front ++ words back := by
  fun_induction words front with
  | case1 first second third fourth rest ih =>
    have rest_whole : rest.length % 4 = 0 := by
      simp only [List.length_cons] at whole
      omega
    simp only [List.cons_append, words, ih rest_whole]
  | case2 front few =>
    have short := length_lt_four few
    obtain rfl : front = [] := List.eq_nil_of_length_eq_zero (by omega)
    rfl

/-- Four bytes are a word. -/
theorem length_words (bytes : List UInt8) : (words bytes).length = bytes.length / 4 := by
  fun_induction words bytes with
  | case1 first second third fourth rest ih =>
    simp only [List.length_cons, ih]
    omega
  | case2 bytes few =>
    exact (Nat.div_eq_of_lt (length_lt_four few)).symm

/-- Of a sequence of words the first block is absorbed first. -/
theorem absorbAll_block (state : State) {block : List UInt32} (size : block.length = 16)
    (rest : List UInt32) :
    absorbAll state (block ++ rest) = absorbAll (absorb state block) rest := by
  cases block with
  | nil => cases size
  | cons word others =>
    rw [List.cons_append, absorbAll, ← List.cons_append, List.take_left' size,
      List.drop_left' size]

/-- Absorbing the complete blocks of a part first makes no difference, whatever follows it. -/
theorem absorbAll_absorbBlocks (state : State) (part more : List UInt8) :
    absorbAll state (words (part ++ more)) =
      absorbAll (absorbBlocks state part).1 (words ((absorbBlocks state part).2 ++ more)) := by
  fun_induction absorbBlocks state part with
  | case1 state part enough ih =>
    have size : (part.take blockSize).length = blockSize := List.length_take_of_le enough
    have block : (words (part.take blockSize)).length = 16 := by rw [length_words, size]; rfl
    have divided : words (part ++ more) =
        words (part.take blockSize) ++ words (part.drop blockSize ++ more) := by
      rw [← words_append (by rw [size]; rfl), ← List.append_assoc, List.take_append_drop]
    rw [divided, absorbAll_block state block, ih]
  | case2 => rfl

namespace Hasher

/-- A hasher has taken in a sequence of bytes: it has counted them, and whatever follows them is
absorbed as behind all of them. -/
structure Holds (hasher : Hasher) (bytes : List UInt8) : Prop where
  /-- All of them are counted. -/
  length : hasher.length = bytes.length
  /-- The bytes that are not pending have been absorbed. -/
  absorbed : ∀ more, absorbAll initial (words (bytes ++ more)) =
    absorbAll hasher.state (words (hasher.pending ++ more))

/-- At the start no bytes have been taken in. -/
theorem holds_start : start.Holds [] := ⟨rfl, fun _ => rfl⟩

variable {hasher : Hasher} {bytes : List UInt8}

/-- A part is taken in behind the bytes so far. -/
theorem Holds.feed (holds : hasher.Holds bytes) (part : List UInt8) :
    (hasher.feed part).Holds (bytes ++ part) where
  length := by
    rw [List.length_append, ← holds.length]
    rfl
  absorbed more := by
    rw [List.append_assoc, holds.absorbed, ← List.append_assoc]
    exact absorbAll_absorbBlocks hasher.state (hasher.pending ++ part) more

/-- Parts are taken in one behind the other. -/
theorem Holds.feedAll (holds : hasher.Holds bytes) (parts : List (List UInt8)) :
    (parts.foldl Hasher.feed hasher).Holds (bytes ++ parts.flatten) := by
  induction parts generalizing hasher bytes with
  | nil => simpa using holds
  | cons part rest ih =>
    have behind := ih (holds.feed part)
    rwa [List.append_assoc] at behind

/-- The digest is that of the bytes that have been taken in. -/
theorem Holds.finish_eq (holds : hasher.Holds bytes) : hasher.finish = sha256 bytes := by
  have final := holds.absorbed (padding bytes.length)
  rw [← holds.length] at final
  rw [finish, sha256, ← holds.length, final]

end Hasher

end Digest

/-- However a content is divided into parts, the checksum of a hasher that takes in one after the
other is that of the whole content. -/
theorem Checksum.ofHasher_parts (parts : List (List UInt8)) :
    ofHasher (parts.foldl Digest.Hasher.feed .start) = ofBytes parts.flatten := by
  have digest := (Digest.Hasher.holds_start.feedAll parts).finish_eq
  rw [ofHasher, digest]
  rfl

/-- The checksum of a bundle is that of a hasher that takes in its files one after the other. -/
theorem Model.checksum_eq_ofHasher {rules : LoadRules} {directory : String}
    {tree : Option FileTree} {model : Model}
    (loads : ofDirectory rules directory tree = .ok model) :
    model.checksum = some (.ofHasher
      (((rules.files directory tree).map SourceFile.content).foldl Digest.Hasher.feed .start)) := by
  rw [(ofDirectory_eq_ok_iff_files.mp loads).checksum_eq, Checksum.ofHasher_parts]
  rfl

end SchemaProjection
