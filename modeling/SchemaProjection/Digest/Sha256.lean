/-!
# SHA-256

The digest of a sequence of bytes. The bytes are padded with one bit, zeros, and their length
in bits to blocks of 64; each block gives a schedule of 64 words, and every word of the
schedule is mixed once into a state of eight words.
-/
namespace SchemaProjection.Digest

/-- The state of eight words. -/
structure State where
  /-- First word. -/
  a : UInt32
  /-- Second word. -/
  b : UInt32
  /-- Third word. -/
  c : UInt32
  /-- Fourth word. -/
  d : UInt32
  /-- Fifth word. -/
  e : UInt32
  /-- Sixth word. -/
  f : UInt32
  /-- Seventh word. -/
  g : UInt32
  /-- Eighth word. -/
  h : UInt32
deriving Repr, DecidableEq

/-- The state before the first block. -/
def initial : State :=
  ⟨0x6a09e667, 0xbb67ae85, 0x3c6ef372, 0xa54ff53a, 0x510e527f, 0x9b05688c, 0x1f83d9ab, 0x5be0cd19⟩

/-- The constants of the rounds. -/
def constants : List UInt32 :=
  [0x428a2f98, 0x71374491, 0xb5c0fbcf, 0xe9b5dba5, 0x3956c25b, 0x59f111f1, 0x923f82a4, 0xab1c5ed5,
   0xd807aa98, 0x12835b01, 0x243185be, 0x550c7dc3, 0x72be5d74, 0x80deb1fe, 0x9bdc06a7, 0xc19bf174,
   0xe49b69c1, 0xefbe4786, 0x0fc19dc6, 0x240ca1cc, 0x2de92c6f, 0x4a7484aa, 0x5cb0a9dc, 0x76f988da,
   0x983e5152, 0xa831c66d, 0xb00327c8, 0xbf597fc7, 0xc6e00bf3, 0xd5a79147, 0x06ca6351, 0x14292967,
   0x27b70a85, 0x2e1b2138, 0x4d2c6dfc, 0x53380d13, 0x650a7354, 0x766a0abb, 0x81c2c92e, 0x92722c85,
   0xa2bfe8a1, 0xa81a664b, 0xc24b8b70, 0xc76c51a3, 0xd192e819, 0xd6990624, 0xf40e3585, 0x106aa070,
   0x19a4c116, 0x1e376c08, 0x2748774c, 0x34b0bcb5, 0x391c0cb3, 0x4ed8aa4a, 0x5b9cca4f, 0x682e6ff3,
   0x748f82ee, 0x78a5636f, 0x84c87814, 0x8cc70208, 0x90befffa, 0xa4506ceb, 0xbef9a3f7, 0xc67178f2]

/-- Turn a word to the right. -/
def turn (word count : UInt32) : UInt32 := (word >>> count) ||| (word <<< (32 - count))

/-- The mixing function of the schedule for the word fifteen places back. -/
def schedule0 (word : UInt32) : UInt32 := turn word 7 ^^^ turn word 18 ^^^ (word >>> 3)

/-- The mixing function of the schedule for the word two places back. -/
def schedule1 (word : UInt32) : UInt32 := turn word 17 ^^^ turn word 19 ^^^ (word >>> 10)

/-- The word after a window of sixteen words. -/
def nextWord : List UInt32 → UInt32
  | [w0, w1, _, _, _, _, _, _, _, w9, _, _, _, _, w14, _] => schedule1 w14 + w9 + schedule0 w1 + w0
  | _ => 0

/-- Mix a word of the schedule and the constant of its round into the state. -/
def mix (state : State) (constant word : UInt32) : State :=
  let ⟨a, b, c, d, e, f, g, h⟩ := state
  let choice := (e &&& f) ^^^ ((~~~ e) &&& g)
  let majority := (a &&& b) ^^^ (a &&& c) ^^^ (b &&& c)
  let first := h + (turn e 6 ^^^ turn e 11 ^^^ turn e 25) + choice + constant + word
  let second := (turn a 2 ^^^ turn a 13 ^^^ turn a 22) + majority
  ⟨first + second, a, b, c, d + first, e, f, g⟩

/-- Run the rounds of a block over the window of the next sixteen words of its schedule. -/
def rounds : List UInt32 → List UInt32 → State → State
  | [], _, state => state
  | _ :: _, [], state => state
  | constant :: further, word :: window, state =>
    rounds further (window ++ [nextWord (word :: window)]) (mix state constant word)

/-- The state after a block of sixteen words. -/
def absorb (state : State) (block : List UInt32) : State :=
  let mixed := rounds constants block state
  ⟨state.a + mixed.a, state.b + mixed.b, state.c + mixed.c, state.d + mixed.d,
   state.e + mixed.e, state.f + mixed.f, state.g + mixed.g, state.h + mixed.h⟩

/-- The words of a sequence of bytes, four bytes to a word and the highest byte first. -/
def words : List UInt8 → List UInt32
  | first :: second :: third :: fourth :: rest =>
    (first.toUInt32 <<< 24 ||| second.toUInt32 <<< 16 ||| third.toUInt32 <<< 8 |||
      fourth.toUInt32) :: words rest
  | _ => []

/-- A number as eight bytes, the highest first. -/
def lengthBytes (number : Nat) : List UInt8 :=
  [56, 48, 40, 32, 24, 16, 8, 0].map fun shift => UInt8.ofNat (number >>> shift)

/-- The bytes that complete a sequence of the given length to whole blocks. -/
def padding (length : Nat) : List UInt8 :=
  0x80 :: List.replicate ((119 - length % 64) % 64) 0 ++ lengthBytes (8 * length)

/-- The state after all blocks of a sequence of words. -/
def absorbAll (state : State) (message : List UInt32) : State :=
  match message with
  | [] => state
  | word :: rest => absorbAll (absorb state ((word :: rest).take 16)) ((word :: rest).drop 16)
termination_by message.length
decreasing_by simp only [List.length_drop, List.length_cons]; omega

/-- A word as four bytes, the highest first. -/
def wordBytes (word : UInt32) : List UInt8 :=
  [(word >>> 24).toUInt8, (word >>> 16).toUInt8, (word >>> 8).toUInt8, word.toUInt8]

/-- The digest of a sequence of bytes: 32 bytes. -/
def sha256 (bytes : List UInt8) : List UInt8 :=
  let final := absorbAll initial (words (bytes ++ padding bytes.length))
  [final.a, final.b, final.c, final.d, final.e, final.f, final.g, final.h].flatMap wordBytes

/-- A digit of a digest in hexadecimal, in lower case. -/
def hexDigit (value : UInt8) : Char :=
  if value < 10 then Char.ofNat (48 + value.toNat) else Char.ofNat (87 + value.toNat)

/-- Bytes as hexadecimal digits, two to a byte. -/
def hex (bytes : List UInt8) : String :=
  String.ofList <| bytes.flatMap fun (byte : UInt8) =>
    [hexDigit (byte >>> 4), hexDigit (byte &&& 0xf)]

/-- The upper half of a byte as a number. -/
theorem toNat_upper (byte : UInt8) : (byte >>> 4).toNat = byte.toNat / 16 := by
  rw [UInt8.toNat_shiftRight, Nat.shiftRight_eq_div_pow]
  rfl

/-- The lower half of a byte as a number. -/
theorem toNat_lower (byte : UInt8) : (byte &&& 0xf).toNat = byte.toNat % 16 := by
  rw [UInt8.toNat_and]
  exact Nat.and_two_pow_sub_one_eq_mod byte.toNat 4

end SchemaProjection.Digest
