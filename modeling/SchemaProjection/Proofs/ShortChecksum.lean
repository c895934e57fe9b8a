import Mathlib.Data.String.Basic
import SchemaProjection.Proofs.JsonGrammar
import SchemaProjection.Proofs.StoredValues

/-!
# Short forms of checksums

The short form of a checksum is the front of its text, cut after a fixed number of bytes. The text
can be cut there unless a character begins before the cut and ends after it
(`Checksum.short?_eq_none_iff`). The digits of a digest take up one byte each, so they can be cut
anywhere; a text that is taken for a checksum or read from JSON may be any text. So all checksums
have short forms exactly as long as no such text has a character where it would be cut
(`Checksum.obtained_shortened_iff`).
-/
namespace SchemaProjection

open String (utf8Len)
open Json (Partial bind_eq_ok_iff mapError_eq_ok_iff)

namespace Digest

/-- A hexadecimal digit takes up one byte. -/
theorem utf8Size_hexDigit : ∀ value < 16, (hexDigit (UInt8.ofNat value)).utf8Size = 1 := by
  decide

/-- The digits of a sequence of bytes take up one byte each. -/
theorem utf8Size_of_mem_hex {bytes : List UInt8} {digit : Char}
    (listed : digit ∈ (hex bytes).toList) : digit.utf8Size = 1 := by
  have small {value : UInt8} (low : value.toNat < 16) : (hexDigit value).utf8Size = 1 := by
    have size := utf8Size_hexDigit value.toNat low
    rwa [UInt8.ofNat_toNat] at size
  rw [hex, String.toList_ofList, List.mem_flatMap] at listed
  obtain ⟨byte, -, either⟩ := listed
  have bound := byte.toNat_lt
  have high : (byte >>> 4).toNat < 16 := by
    rw [toNat_upper]
    omega
  have low : (byte &&& 0xf).toNat < 16 := by
    rw [toNat_lower]
    omega
  rw [List.mem_cons, List.mem_singleton] at either
  obtain rfl | rfl := either
  · exact small high
  · exact small low

end Digest

namespace Checksum

/-- A number of bytes ends inside a character of a text: the character begins before that end and
ends after it. -/
def EndsInside (count : Nat) (text : String) : Prop :=
  ∃ (front : String) (letter : Char) (back : String), text = front.push letter ++ back ∧
    front.utf8ByteSize < count ∧ count < (front.push letter).utf8ByteSize

/-- The characters of a text have the bytes of the text. -/
theorem utf8Len_toList (text : String) : utf8Len text.toList = text.utf8ByteSize := by
  rw [← String.utf8ByteSize_ofList, String.ofList_toList]

variable {count : Nat} {text front : List Char}

/-- What is taken is the front of the text with the number of bytes that was asked for. -/
theorem takeBytes_eq_some_iff :
    takeBytes count text = some front ↔ ∃ back, text = front ++ back ∧ utf8Len front = count := by
  fun_induction takeBytes count text generalizing front with
  | case1 text =>
    constructor
    · rintro ⟨⟩
      exact ⟨text, rfl, rfl⟩
    · rintro ⟨back, -, empty⟩
      rw [String.utf8Len_eq_zero.mp empty]
  | case2 count =>
    refine ⟨nofun, ?_⟩
    rintro ⟨back, divided, bytes⟩
    obtain ⟨rfl, -⟩ := List.append_eq_nil_iff.mp divided.symm
    cases bytes
  | case3 count c rest fits ih =>
    rw [Option.map_eq_some_iff]
    constructor
    · rintro ⟨others, taken, rfl⟩
      obtain ⟨back, rfl, bytes⟩ := ih.mp taken
      refine ⟨back, rfl, ?_⟩
      rw [String.utf8Len_cons, bytes]
      omega
    · rintro ⟨back, divided, bytes⟩
      cases front with
      | nil => cases bytes
      | cons first others =>
        obtain ⟨rfl, left⟩ := List.cons.inj divided
        rw [String.utf8Len_cons] at bytes
        exact ⟨others, ih.mpr ⟨back, left, by omega⟩, rfl⟩
  | case4 count c rest large =>
    refine ⟨nofun, ?_⟩
    rintro ⟨back, divided, bytes⟩
    cases front with
    | nil => cases bytes
    | cons first others =>
      obtain ⟨rfl, -⟩ := List.cons.inj divided
      rw [String.utf8Len_cons] at bytes
      omega

/-- Nothing can be taken from a text that is long enough exactly if the bytes end inside one of its
characters. -/
theorem takeBytes_eq_none_iff (enough : count ≤ utf8Len text) :
    takeBytes count text = none ↔ ∃ front letter back, text = front ++ letter :: back ∧
      utf8Len front < count ∧ count < utf8Len front + letter.utf8Size := by
  fun_induction takeBytes count text with
  | case1 text => simp
  | case2 count => simp at enough
  | case3 count c rest fits ih =>
    rw [String.utf8Len_cons] at enough
    rw [Option.map_eq_none_iff, ih (by omega)]
    constructor
    · rintro ⟨front, letter, back, rfl, before, after⟩
      refine ⟨c :: front, letter, back, rfl, ?_⟩
      rw [String.utf8Len_cons]
      omega
    · rintro ⟨front, letter, back, divided, before, after⟩
      cases front with
      | nil =>
        obtain ⟨rfl, -⟩ := List.cons.inj divided
        rw [String.utf8Len_nil] at after
        omega
      | cons first front =>
        obtain ⟨rfl, rfl⟩ := List.cons.inj divided
        rw [String.utf8Len_cons] at before after
        exact ⟨front, letter, back, rfl, by omega⟩
  | case4 count c rest large =>
    refine ⟨fun _ => ⟨[], c, rest, rfl, ?_⟩, fun _ => rfl⟩
    rw [String.utf8Len_nil]
    omega

/-- The short form of a checksum: a beginning of its text of at most as many bytes as a short form
may have, which leaves nothing out of a text that is no longer and has all these bytes of one that
is. -/
structure IsShortForm (checksum : Checksum) (short : String) : Prop where
  /-- The form begins the text. -/
  begins : ∃ back, checksum.text = short ++ back
  /-- The form has at most as many bytes as a short form may have. -/
  bounded : short.utf8ByteSize ≤ shortLength
  /-- A short text is its own short form. -/
  whole : checksum.text.utf8ByteSize ≤ shortLength → short = checksum.text
  /-- The short form of a longer text is as long as a short form may be. -/
  full : shortLength ≤ checksum.text.utf8ByteSize → short.utf8ByteSize = shortLength

variable {checksum : Checksum} {short : String}

/-- The short form is the beginning of the text with as many bytes as the text has, up to those of
a short form. -/
theorem isShortForm_iff :
    checksum.IsShortForm short ↔ ∃ back, checksum.text = short ++ back ∧
      short.utf8ByteSize = min shortLength checksum.text.utf8ByteSize := by
  constructor
  · rintro ⟨⟨back, divided⟩, -, whole, full⟩
    refine ⟨back, divided, ?_⟩
    obtain few | many := Nat.le_total checksum.text.utf8ByteSize shortLength
    · rw [Nat.min_eq_right few, whole few]
    · rw [Nat.min_eq_left many, full many]
  · rintro ⟨back, divided, bytes⟩
    refine ⟨⟨back, divided⟩, by omega, fun few => ?_, fun many => by omega⟩
    have all := congrArg String.utf8ByteSize divided
    rw [String.utf8ByteSize_append] at all
    have empty : back.utf8ByteSize = 0 := by omega
    rw [divided, String.utf8ByteSize_eq_zero_iff.mp empty, String.append_empty]

/-- The short form of a checksum is given exactly as it is specified. -/
theorem short?_eq_some_iff : checksum.short? = some short ↔ checksum.IsShortForm short := by
  rw [isShortForm_iff, short?, Option.map_eq_some_iff]
  constructor
  · rintro ⟨front, taken, rfl⟩
    obtain ⟨back, divided, bytes⟩ := takeBytes_eq_some_iff.mp taken
    refine ⟨String.ofList back, ?_, ?_⟩
    · rw [← String.ofList_append, ← divided, String.ofList_toList]
    · rw [String.utf8ByteSize_ofList, bytes]
  · rintro ⟨back, divided, bytes⟩
    refine ⟨short.toList, takeBytes_eq_some_iff.mpr ⟨back.toList, ?_, ?_⟩, String.ofList_toList⟩
    · rw [divided, String.toList_append]
    · rw [utf8Len_toList, bytes]

/-- A checksum has no short form exactly if the bytes of a short form end inside a character. -/
theorem short?_eq_none_iff :
    checksum.short? = none ↔ EndsInside shortLength checksum.text := by
  have size := utf8Len_toList checksum.text
  rw [short?, Option.map_eq_none_iff, takeBytes_eq_none_iff (by omega)]
  constructor
  · rintro ⟨front, letter, back, divided, before, after⟩
    have bytes := congrArg utf8Len divided
    rw [size, String.utf8Len_append, String.utf8Len_cons] at bytes
    refine ⟨String.ofList front, letter, String.ofList back, ?_, ?_, ?_⟩
    · apply String.toList_inj.mp
      simp [divided]
    · rw [String.utf8ByteSize_ofList]
      omega
    · rw [String.utf8ByteSize_push, String.utf8ByteSize_ofList]
      omega
  · rintro ⟨front, letter, back, divided, before, after⟩
    have bytes := congrArg String.utf8ByteSize divided
    rw [String.utf8ByteSize_append] at bytes
    rw [String.utf8ByteSize_push] at bytes after
    refine ⟨front.toList, letter, back.toList, ?_, ?_⟩
    · rw [divided]
      simp
    · rw [utf8Len_toList]
      omega

/-- A checksum has its short form exactly if the bytes of one do not end inside a character. -/
theorem exists_short?_iff :
    (∃ short, checksum.short? = some short ∧ checksum.IsShortForm short) ↔
      ¬EndsInside shortLength checksum.text := by
  rw [← short?_eq_none_iff, ← ne_eq, Option.ne_none_iff_exists']
  exact exists_congr fun short => and_iff_left_of_imp short?_eq_some_iff.mp

/-- No number of bytes ends inside a character where each character is one byte. -/
theorem not_endsInside_of_ascii {text : String} (ascii : ∀ c ∈ text.toList, c.utf8Size = 1)
    (count : Nat) : ¬EndsInside count text := by
  rintro ⟨front, letter, back, rfl, before, after⟩
  have size := ascii letter (by simp)
  rw [String.utf8ByteSize_push] at after
  omega

/-- The ways to come by a checksum, given the texts that are taken for one and the texts that are
read. -/
inductive Obtained (taken reads : String → Prop) : Checksum → Prop
  /-- The checksum of bytes. -/
  | ofBytes (bytes : List UInt8) : Obtained taken reads (.ofBytes bytes)
  /-- The checksum of a text. -/
  | ofContent (content : String) : Obtained taken reads (.ofContent content)
  /-- The checksum of what a hasher has taken in. -/
  | ofHasher (hasher : Digest.Hasher) : Obtained taken reads (.ofHasher hasher)
  /-- A text that is taken for a checksum. -/
  | text {text : String} (given : taken text) : Obtained taken reads ⟨text⟩
  /-- A checksum that is read from JSON. -/
  | read {text : String} {checksum : Checksum} (given : reads text)
    (read : format.ofJsonText text = .ok checksum) : Obtained taken reads checksum

/-- The digits of a digest can be cut anywhere. -/
theorem not_endsInside_hex (bytes : List UInt8) (count : Nat) :
    ¬EndsInside count (Digest.hex bytes) :=
  not_endsInside_of_ascii (fun _ listed => Digest.utf8Size_of_mem_hex listed) count

/-- A checksum is read from JSON that is one text literal, and is its content. -/
theorem ofJsonText_eq_ok_iff {text : String} :
    format.ofJsonText text = .ok checksum ↔
      Json.tokens text.toList = [.text (some checksum.text)] := by
  rw [Format.ofJsonText_eq_ok_iff]
  constructor
  · rintro ⟨read, only⟩
    simp only [format, Format.readJson, bind_eq_ok_iff, mapError_eq_ok_iff,
      Format.readJsonText_eq_ok_iff] at read
    obtain ⟨content, tree, ⟨⟩⟩ := read
    have spells := Partial.ofText_eq_iff.mp (Prod.ext tree only)
    generalize Json.tokens text.toList = tokens at spells
    cases spells
    rfl
  · intro literal
    have spells : Partial.Spells (Json.tokens text.toList) (.text (some checksum.text)) :=
      literal ▸ .text _
    rw [Partial.ofText_eq_iff.mpr spells]
    exact ⟨rfl, rfl⟩

/-- Every checksum that is obtained has its short form exactly as long as no text that is taken for
one, and no content of a text literal that is read, has a character across the end of it. -/
theorem obtained_shortened_iff (taken reads : String → Prop) :
    (∀ checksum : Checksum, ∀ short,
        checksum.short? = some short ↔ checksum.IsShortForm short) ∧
      (∀ checksum : Checksum,
        checksum.short? = none ↔ EndsInside shortLength checksum.text) ∧
      ((∀ checksum, Obtained taken reads checksum →
          ∃ short, checksum.short? = some short ∧ checksum.IsShortForm short) ↔
        (∀ text, taken text → ¬EndsInside shortLength text) ∧
          ∀ text content, reads text → Json.tokens text.toList = [.text (some content)] →
            ¬EndsInside shortLength content) := by
  refine ⟨fun _ _ => short?_eq_some_iff, fun _ => short?_eq_none_iff, ?_⟩
  simp only [exists_short?_iff]
  constructor
  · intro shortened
    refine ⟨fun text given => shortened _ (.text given), fun text content given literal => ?_⟩
    exact shortened _ (.read given (ofJsonText_eq_ok_iff.mpr literal))
  · rintro ⟨apart, literals⟩ checksum obtained
    cases obtained with
    | ofBytes bytes => exact not_endsInside_hex _ _
    | ofContent content => exact not_endsInside_hex _ _
    | ofHasher hasher => exact not_endsInside_hex _ _
    | text given => exact apart _ given
    | read given read => exact literals _ _ given (ofJsonText_eq_ok_iff.mp read)

/-- A text the twelfth byte of which is the first of the two of its last character. -/
def accented : Checksum := ⟨"abcdefghijké"⟩

/-- The accented checksum has no short form, be it taken for one or read from the JSON that is
written of it. -/
theorem accented_not_shortened :
    Obtained (· = accented.text) (fun _ => False) accented ∧
      Obtained (fun _ => False) (· = format.jsonText accented) accented ∧
      accented.short? = none :=
  ⟨.text rfl, .read rfl (format_lossless (.text accented.text) _ rfl).ofJsonText, by decide⟩

end Checksum

end SchemaProjection
