import SchemaProjection.Proofs.Bundle
import SchemaProjection.Proofs.DocumentBoundary

/-!
# What the checksum of a bundle stands for

The checksum of a bundle is that of its contents one after the other. Where no two contents
collide, it stands for these bytes, not for where one file ends and how it is encoded. JSON
documents are found again in the bytes however they are divided into files, because each ends in
the bracket that closes it. A file in TOML does not tell where it ends: what the next file holds
may continue its last line. So bundles with the same checksum are the same model if each file in
TOML of the one stands in the same place of the other (`Model.same_of_checksum`), and there are
two with the same bytes that are not (`Model.checksum_ambiguous`).
-/
namespace SchemaProjection

open Json (Token isSpace)

namespace Digest

open Number (hexValue?)

/-- A hexadecimal digit has the value that it stands for. -/
theorem hexValue?_hexDigit :
    ∀ value < 16, hexValue? (hexDigit (UInt8.ofNat value)) = some value := by
  decide

/-- Digits that are written alike have the same value. -/
theorem eq_of_hexDigit {first second : UInt8} (low : first.toNat < 16) (small : second.toNat < 16)
    (same : hexDigit first = hexDigit second) : first.toNat = second.toNat := by
  have value := hexValue?_hexDigit first.toNat low
  have other := hexValue?_hexDigit second.toNat small
  rw [UInt8.ofNat_toNat] at value other
  rw [same, other] at value
  exact (Option.some.inj value).symm

/-- Bytes that are written with the same digits are the same. -/
theorem eq_of_hexDigits {first second : UInt8}
    (high : hexDigit (first >>> 4) = hexDigit (second >>> 4))
    (low : hexDigit (first &&& 0xf) = hexDigit (second &&& 0xf)) : first = second := by
  have bound (byte : UInt8) : byte.toNat / 16 < 16 :=
    Nat.div_lt_of_lt_mul byte.toNat_lt
  have above := eq_of_hexDigit (by rw [toNat_upper]; exact bound first)
    (by rw [toNat_upper]; exact bound second) high
  have below := eq_of_hexDigit (by rw [toNat_lower]; omega) (by rw [toNat_lower]; omega) low
  rw [toNat_upper, toNat_upper] at above
  rw [toNat_lower, toNat_lower] at below
  exact UInt8.toNat_inj.mp (by omega)

/-- Different bytes are written differently. -/
theorem hex_injective : Function.Injective hex := by
  intro first second same
  have digits := String.ofList_inj.mp same
  clear same
  induction first generalizing second with
  | nil =>
    cases second with
    | nil => rfl
    | cons => cases digits
  | cons byte rest ih =>
    cases second with
    | nil => cases digits
    | cons other further =>
      simp only [List.flatMap_cons, List.cons_append, List.nil_append, List.cons.injEq] at digits
      obtain ⟨high, low, digits⟩ := digits
      rw [eq_of_hexDigits high low, ih digits]

/-- Two contents collide if they differ and have the same digest. -/
def Collide (first second : List UInt8) : Prop := first ≠ second ∧ sha256 first = sha256 second

end Digest

namespace Checksum

/-- Different texts have different bytes. -/
theorem textBytes_injective : Function.Injective textBytes := by
  intro first second same
  rw [textBytes, textBytes, toList_bytes, toList_bytes] at same
  exact String.toByteArray_inj.mp (ByteArray.ext (Array.toList_inj.mp same))

/-- A text is decoded from its bytes. -/
theorem decoded?_textBytes (text : String) : Text.decoded? (textBytes text) = some text := by
  have bytes : (⟨(textBytes text).toArray⟩ : ByteArray) = text.toByteArray := by
    rw [textBytes, toList_bytes, Array.toArray_toList]
    rfl
  rw [Text.decoded?, bytes, String.fromUTF8?, dif_pos text.isValidUTF8]
  rfl

/-- Contents that do not collide are the same if their checksums are. -/
theorem eq_of_ofBytes {first second : List UInt8} (apart : ¬Digest.Collide first second)
    (same : ofBytes first = ofBytes second) : first = second := by
  by_contra different
  exact apart ⟨different, Digest.hex_injective (congrArg Checksum.text same)⟩

end Checksum

namespace SourceFile

/-- The contents of files one after the other. -/
def contents (files : List SourceFile) : List UInt8 := files.flatMap SourceFile.content

/-- Whether a file holds a text of blanks. -/
def isBlank (file : SourceFile) : Bool :=
  (Text.decoded? file.content).any fun text => text.toList.all isSpace

/-- Each file in TOML that is more than blanks also stands among other files, in TOML and in the
same place: before the same bytes. -/
def KeepsToml (files others : List SourceFile) : Prop :=
  ∀ front file back, files = front ++ file :: back → file.encoding = .toml → file.isBlank = false →
    ∃ before other behind, others = before ++ other :: behind ∧ other.encoding = .toml ∧
      other.content = file.content ∧ contents behind = contents back

variable {file other : SourceFile} {reading : Reading} {files others : List SourceFile}
  {readings further : List Reading}

/-- A file holds one reading. -/
theorem Holds.unique {another : Reading} (holds : file.Holds reading) (held : other.Holds another)
    (content : other.content = file.content) (encoding : other.encoding = file.encoding) :
    reading = another := by
  obtain ⟨text, document⟩ := reading
  obtain ⟨sameText, sameDocument⟩ := another
  obtain rfl : text = sameText :=
    Option.some.inj (holds.decoded.symm.trans (content ▸ held.decoded))
  obtain rfl : document = sameDocument :=
    Except.ok.inj (holds.parsed.symm.trans (encoding ▸ held.parsed))
  rfl

/-- A file of blanks is one whose text consists of blanks. -/
theorem Holds.isBlank_eq (holds : file.Holds reading) :
    file.isBlank = reading.text.toList.all isSpace := by
  rw [isBlank, holds.decoded]
  rfl

/-- A file without bytes is blank. -/
theorem isBlank_of_nil (empty : file.content = []) : file.isBlank = true := by
  rw [isBlank, empty]
  rfl

end SourceFile

open SourceFile (Holds contents KeepsToml)

/-- The characters of what was read, one after the other. -/
def Reading.chars (readings : List Reading) : List Char :=
  readings.flatMap fun reading => reading.text.toList

namespace Reading

variable {files others : List SourceFile} {readings further : List Reading}

/-- Files with the same bytes have the same characters. -/
theorem chars_eq_of_contents (held : List.Forall₂ Holds files readings)
    (also : List.Forall₂ Holds others further) (same : contents files = contents others) :
    chars readings = chars further := by
  have joined (readings : List Reading) :
      (String.join (readings.map Reading.text)).toList = chars readings := by
    induction readings with
    | nil => rfl
    | cons reading rest ih =>
      rw [List.map_cons, String.join_cons, String.toList_append, ih]
      rfl
  rw [contents, contents, Model.flatMap_content held, Model.flatMap_content also] at same
  rw [← joined, ← joined, Checksum.textBytes_injective same]

/-- Documents with the tokens that spell them. -/
def Spell (parts : List (List Token × Document)) : Prop :=
  ∀ part ∈ parts, part.2.Spelled part.1

/-- Files in JSON, and blank ones, have the tokens of their documents one after the other. -/
theorem exists_spell (held : List.Forall₂ Holds files readings)
    (json : ∀ file ∈ files, file.encoding = .toml → file.isBlank = true) :
    ∃ parts, Spell parts ∧ Json.tokens (chars readings) = parts.flatMap Prod.fst ∧
      declared readings = parts.flatMap fun part => part.2.types := by
  induction held with
  | nil => exact ⟨[], nofun, by simp [chars, Json.tokens], rfl⟩
  | @cons file reading files readings holds _ ih =>
    obtain ⟨here, others⟩ := List.forall_mem_cons.mp json
    obtain ⟨parts, spell, divided, types⟩ := ih others
    cases encoding : file.encoding with
    | json =>
      have spelled : reading.document.Spelled (Json.tokens reading.text.toList) :=
        Document.ofText_json_eq_ok_iff.mp (encoding ▸ holds.parsed)
      refine ⟨(_, reading.document) :: parts, List.forall_mem_cons.mpr ⟨spelled, spell⟩, ?_, ?_⟩
      · exact (spelled.closed.tokens_append _).trans (congrArg _ divided)
      · exact congrArg _ types
    | toml =>
      have blank : reading.text.toList.all isSpace = true :=
        holds.isBlank_eq.symm.trans (here encoding)
      refine ⟨parts, spell, (Json.tokens_of_blank blank _).trans divided, ?_⟩
      have nothing := Document.types_of_blank blank (encoding ▸ holds.parsed)
      rw [declared, List.flatMap_cons, nothing]
      exact types

/-- Files declare what the documents declare of which the tokens are theirs. -/
theorem declared_of_spell {parts : List (List Token × Document)}
    (held : List.Forall₂ Holds files readings) (spell : Spell parts)
    (divided : Json.tokens (chars readings) = parts.flatMap Prod.fst) :
    declared readings = parts.flatMap fun part => part.2.types := by
  induction held generalizing parts with
  | nil =>
    cases parts with
    | nil => rfl
    | cons part parts =>
      have empty :=
        (List.append_eq_nil_iff.mp (divided.symm.trans (by simp [chars, Json.tokens]))).1
      exact absurd empty (spell part List.mem_cons_self).ne_nil
  | @cons file reading files readings holds _ ih =>
    cases encoding : file.encoding with
    | json =>
      have spelled : reading.document.Spelled (Json.tokens reading.text.toList) :=
        Document.ofText_json_eq_ok_iff.mp (encoding ▸ holds.parsed)
      have first : Json.tokens (chars (reading :: readings)) =
          Json.tokens reading.text.toList ++ Json.tokens (chars readings) :=
        spelled.closed.tokens_append _
      rw [first] at divided
      cases parts with
      | nil => exact absurd (List.append_eq_nil_iff.mp divided).1 spelled.ne_nil
      | cons part parts =>
        obtain ⟨whole, others⟩ := List.forall_mem_cons.mp spell
        obtain ⟨same, left⟩ := spelled.unambiguous whole divided
        have types := ih others left
        rw [declared, List.flatMap_cons, List.flatMap_cons, same]
        exact congrArg _ types
    | toml =>
      have read : Document.ofText .toml reading.text = .ok reading.document :=
        encoding ▸ holds.parsed
      have blank : reading.text.toList.all isSpace = true := by
        cases parts with
        | nil =>
          have all := Json.tokens_eq_nil_iff.mp divided
          rw [chars, List.flatMap_cons, List.all_append, Bool.and_eq_true] at all
          exact all.1
        | cons part parts =>
          exact Document.blank_of_spelled (spell part List.mem_cons_self) divided read
      have types := ih spell ((Json.tokens_of_blank blank _).symm.trans divided)
      rw [declared, List.flatMap_cons, Document.types_of_blank blank read]
      exact types

/-- Bundles with the same bytes declare the same if one of them is in JSON. -/
theorem declared_eq_of_json (held : List.Forall₂ Holds files readings)
    (also : List.Forall₂ Holds others further) (same : contents files = contents others)
    (json : ∀ file ∈ files, file.encoding = .toml → file.isBlank = true) :
    declared readings = declared further := by
  obtain ⟨parts, spell, divided, types⟩ := exists_spell held json
  rw [chars_eq_of_contents held also same] at divided
  rw [types, declared_of_spell also spell divided]

end Reading

/-- What is related to two lists in a row are two lists in a row. -/
theorem exists_of_forall₂_append {α β : Type} {relation : α → β → Prop} {front back : List α}
    {all : List β} (related : List.Forall₂ relation (front ++ back) all) :
    ∃ first second, all = first ++ second ∧ List.Forall₂ relation front first ∧
      List.Forall₂ relation back second := by
  induction front generalizing all with
  | nil => exact ⟨[], all, rfl, .nil, related⟩
  | cons item front ih =>
    cases related with
    | cons here further =>
      obtain ⟨first, second, rfl, before, behind⟩ := ih further
      exact ⟨_ :: first, second, rfl, .cons here before, behind⟩

namespace SourceFile

variable {files others front back before behind : List SourceFile} {file other : SourceFile}

/-- Files in a row have their contents in a row. -/
theorem contents_append (front back : List SourceFile) :
    contents (front ++ back) = contents front ++ contents back := List.flatMap_append

/-- A file before others has its content before theirs. -/
theorem contents_cons (file : SourceFile) (rest : List SourceFile) :
    contents (file :: rest) = file.content ++ contents rest := List.flatMap_cons

/-- A bundle in JSON has no files in TOML to be kept. -/
theorem keepsToml_of_json (json : ∀ file ∈ files, file.encoding = .json) :
    KeepsToml files others := by
  rintro front file back rfl toml -
  rw [json file (by simp)] at toml
  cases toml

/-- Behind a file that stands in the same place of two bundles the files in TOML stand in the same
places again. -/
theorem KeepsToml.tail (keeps : KeepsToml (front ++ file :: back) (before ++ other :: behind))
    (solid : file.isBlank = false) (content : other.content = file.content)
    (left : contents behind = contents back) : KeepsToml back behind := by
  rintro inner last rest rfl toml solid'
  obtain ⟨beginning, found, ending, divided, encoding, same, place⟩ :=
    keeps (front ++ file :: inner) last rest (by simp) toml solid'
  have nonempty {file : SourceFile} (solid : file.isBlank = false) : 0 < file.content.length := by
    refine List.length_pos_iff.mpr fun empty => ?_
    rw [isBlank_of_nil empty] at solid
    cases solid
  have lengths := congrArg List.length left
  have placeLengths := congrArg List.length place
  simp only [contents_append, contents_cons, List.length_append] at lengths
  obtain ⟨between, rfl, within⟩ | ⟨between, rfl, within⟩ :=
    List.append_eq_append_iff.mp divided
  · cases between with
    | nil =>
      obtain ⟨-, rfl⟩ := List.cons.inj within
      have := nonempty solid'
      omega
    | cons first between =>
      obtain ⟨-, rfl⟩ := List.cons.inj within
      exact ⟨between, found, ending, rfl, encoding, same, place⟩
  · have within := congrArg (fun files => (contents files).length) within
    simp only [contents_append, contents_cons, List.length_append, same, content] at within
    have := nonempty solid
    omega

end SourceFile

namespace Reading

variable {files others : List SourceFile} {readings further : List Reading}

/-- Readings in a row declare their types in a row. -/
theorem declared_append (front back : List Reading) :
    declared (front ++ back) = declared front ++ declared back := List.flatMap_append

/-- A reading before others declares its types before theirs. -/
theorem declared_cons (reading : Reading) (rest : List Reading) :
    declared (reading :: rest) = reading.document.types ++ declared rest := List.flatMap_cons

/-- Bundles with the same bytes declare the same if one keeps the files in TOML of the other. -/
theorem declared_eq_of_keepsToml (held : List.Forall₂ Holds files readings)
    (also : List.Forall₂ Holds others further) (same : contents files = contents others)
    (keeps : KeepsToml files others) : declared readings = declared further := by
  -- By induction on the files behind the first one in TOML, before which there is only JSON.
  induction length : files.length using Nat.strong_induction_on generalizing files others
    readings further with
  | _ size ih =>
    cases found : files.find? fun file => decide (file.encoding = .toml) && !file.isBlank with
    | none =>
      refine declared_eq_of_json held also same fun file listed toml => ?_
      simpa [toml] using List.find?_eq_none.mp found file listed
    | some file =>
      obtain ⟨solid, front, back, rfl, json⟩ := List.find?_eq_some_iff_append.mp found
      obtain ⟨toml, solid⟩ : file.encoding = .toml ∧ file.isBlank = false := by
        simpa using solid
      obtain ⟨before, other, behind, rfl, encoding, content, left⟩ :=
        keeps front file back rfl toml solid
      obtain ⟨first, _, rfl, heldFront, heldBack⟩ := exists_of_forall₂_append held
      obtain ⟨second, _, rfl, alsoFront, alsoBack⟩ := exists_of_forall₂_append also
      obtain ⟨reading, rest, holds, heldRest, rfl⟩ := List.forall₂_cons_left_iff.mp heldBack
      obtain ⟨another, remaining, holds', alsoRest, rfl⟩ := List.forall₂_cons_left_iff.mp alsoBack
      obtain rfl := holds.unique holds' content (encoding.trans toml.symm)
      have begins : contents front = contents before := by
        simp only [SourceFile.contents_append, SourceFile.contents_cons, content, left] at same
        exact List.append_cancel_right same
      have frontTypes := declared_eq_of_json heldFront alsoFront begins fun file listed toml => by
        simpa [toml] using json file listed
      have shorter : back.length < size := by
        simp only [List.length_append, List.length_cons] at length
        omega
      have backTypes := ih back.length shorter heldRest alsoRest left.symm
        (keeps.tail solid content left) rfl
      rw [declared_append, declared_append, declared_cons, declared_cons, frontTypes, backTypes]

end Reading

/-- The documents that are read below a directory, none if it is missing. -/
def LoadRules.files (rules : LoadRules) (directory : String) (tree : Option FileTree) :
    List SourceFile :=
  (tree.map (rules.sourceFiles directory)).getD []

namespace Model

variable {rules otherRules : LoadRules} {directory otherDirectory : String}
  {tree other : Option FileTree} {model otherModel : Model} {files : List SourceFile}

/-- A directory is loaded exactly when the files that are read make up a model, also if it is
missing. -/
theorem ofDirectory_eq_ok_iff_files :
    ofDirectory rules directory tree = .ok model ↔ Gathers (rules.files directory tree) model := by
  cases tree with
  | some tree => exact ofDirectory_eq_ok_iff
  | none =>
    have nothing : rules.sourceFiles directory (.directory []) = [] := by
      simp [LoadRules.sourceFiles, FileTree.walk, FileTree.walkEach]
    have missing : ofDirectory rules directory none =
        ofDirectory rules directory (some (.directory [])) := by
      simp only [ofDirectory, Option.map_some, nothing]
      rfl
    rw [missing, ofDirectory_eq_ok_iff, nothing]
    rfl

/-- The checksum of a bundle is that of its contents. -/
theorem Gathers.checksum_eq (gathers : Gathers files model) :
    model.checksum = some (.ofBytes (contents files)) := by
  obtain ⟨readings, held, -, -, checksum⟩ := gathers
  rw [checksum, Checksum.ofContent, contents, flatMap_content held]

/-- A directory of two files in the same encoding. -/
def twoFiles (encoding : Encoding) (first second : String) : FileTree :=
  .directory [
    ("a." ++ encoding.extension, .file (Checksum.textBytes first)),
    ("b." ++ encoding.extension, .file (Checksum.textBytes second))]

variable {encoding : Encoding} {first second : String}

/-- From the directory of two texts both files are read, the first text before the second. -/
theorem files_twoFiles :
    LoadRules.standard.files "" (some (twoFiles encoding first second)) =
      [⟨"a." ++ encoding.extension, encoding, Checksum.textBytes first⟩,
        ⟨"b." ++ encoding.extension, encoding, Checksum.textBytes second⟩] := by
  have walk (a b : String) (before : decide (a ≤ b) = true) (x y : List UInt8) :
      FileTree.walk (.directory [(a, .file x), (b, .file y)]) = [([a], x), ([b], y)] := by
    simp [FileTree.walk, FileTree.walkEach, List.mergeSort, before]
  rw [LoadRules.files, Option.map_some, Option.getD_some, LoadRules.sourceFiles, twoFiles, walk]
  · cases encoding <;> rfl
  · cases encoding <;> decide

/-- The contents that a directory of two texts is loaded from are the bytes of both texts
together. -/
theorem contents_twoFiles :
    contents (LoadRules.standard.files "" (some (twoFiles encoding first second))) =
      Checksum.textBytes (first ++ second) := by
  rw [files_twoFiles, Checksum.textBytes_append]
  simp [contents]

/-- A directory of two texts is loaded if they are documents of different types. -/
theorem exists_ofDirectory_twoFiles {here there : Document}
    (read : Document.ofText encoding first = .ok here)
    (also : Document.ofText encoding second = .ok there)
    (distinct : ((here.types ++ there.types).map TypeDecl.name).Nodup) :
    ∃ model, ofDirectory .standard "" (some (twoFiles encoding first second)) = .ok model ∧
      model.types = here.types ++ there.types ∧
        model.checksum = some (.ofContent (first ++ second)) := by
  refine ⟨⟨here.types ++ there.types, distinct, some (.ofContent (first ++ second))⟩, ?_, rfl, rfl⟩
  rw [ofDirectory_eq_ok_iff_files, files_twoFiles]
  have decoded := Checksum.decoded?_textBytes
  have declared : Reading.declared [⟨first, here⟩, ⟨second, there⟩] =
      here.types ++ there.types := by
    simp [Reading.declared]
  refine ⟨[⟨first, here⟩, ⟨second, there⟩],
    .cons ⟨decoded first, read⟩ (.cons ⟨decoded second, also⟩ .nil), ?_, declared.symm, ?_⟩
  · rwa [declared]
  · simp

/-- A type of which only the name is declared. -/
def named (name : String) : TypeDecl := ⟨name, .plain, none, false, false, none, none, [], []⟩

/-- The document in JSON of a type without fields, between other texts. -/
def namedText (before name after : String) : String :=
  before ++
    (Json.Value.object [("types", .array [.object [("name", .text name)]])]).compact ++ after

/-- The text of a named type is read as a document of this type, also between blanks. -/
theorem ofText_namedText (before name after : String) (front : before.toList.all isSpace = true)
    (back : after.toList.all isSpace = true) :
    Document.ofText .json (namedText before name after) = .ok ⟨[named name]⟩ :=
  Document.ofText_between_blanks _ before after rfl front back

/-- Two bundles with the same checksum, the contents of which do not collide, have the same
contents. They are the same model if the files in TOML of the one stand in the same places of the
other. -/
theorem same_of_checksum (loads : ofDirectory rules directory tree = .ok model)
    (otherLoads : ofDirectory otherRules otherDirectory other = .ok otherModel)
    (apart : ¬Digest.Collide (contents (rules.files directory tree))
      (contents (otherRules.files otherDirectory other)))
    (checksum : model.checksum = otherModel.checksum) :
    contents (rules.files directory tree) = contents (otherRules.files otherDirectory other) ∧
      (KeepsToml (rules.files directory tree) (otherRules.files otherDirectory other) ∨
        KeepsToml (otherRules.files otherDirectory other) (rules.files directory tree) →
          model = otherModel) := by
  have gathers := ofDirectory_eq_ok_iff_files.mp loads
  have otherGathers := ofDirectory_eq_ok_iff_files.mp otherLoads
  have bytes : contents (rules.files directory tree) =
      contents (otherRules.files otherDirectory other) := by
    rw [gathers.checksum_eq, otherGathers.checksum_eq] at checksum
    exact Checksum.eq_of_ofBytes apart (Option.some.inj checksum)
  refine ⟨bytes, fun keeps => ?_⟩
  obtain ⟨readings, held, -, types, -⟩ := gathers
  obtain ⟨others, also, -, otherTypes, -⟩ := otherGathers
  have declared : Reading.declared readings = Reading.declared others := by
    obtain keeps | keeps := keeps
    · exact Reading.declared_eq_of_keepsToml held also bytes keeps
    · exact (Reading.declared_eq_of_keepsToml also held bytes.symm keeps).symm
  exact eq_of_types (types.trans (declared.trans otherTypes.symm)) checksum

/-- A line end between two documents in JSON may belong to the file of either. -/
theorem same_of_checksum_json :
    ∃ model other,
      ofDirectory .standard "" (some (twoFiles .json
        (namedText "" "Order" "\n") (namedText "" "Line" ""))) = .ok model ∧
      ofDirectory .standard "" (some (twoFiles .json
        (namedText "" "Order" "") (namedText "\n" "Line" ""))) = .ok other ∧
      model.checksum = other.checksum ∧ model = other := by
  obtain ⟨model, loads, -, checksum⟩ := exists_ofDirectory_twoFiles
    (ofText_namedText "" "Order" "\n" rfl rfl) (ofText_namedText "" "Line" "" rfl rfl) (by decide)
  obtain ⟨other, otherLoads, -, otherChecksum⟩ := exists_ofDirectory_twoFiles
    (ofText_namedText "" "Order" "" rfl rfl) (ofText_namedText "\n" "Line" "" rfl rfl) (by decide)
  have texts : namedText "" "Order" "\n" ++ namedText "" "Line" "" =
      namedText "" "Order" "" ++ namedText "\n" "Line" "" := by
    simp [namedText, String.append_assoc]
  have same : model.checksum = other.checksum := by rw [checksum, otherChecksum, texts]
  refine ⟨model, other, loads, otherLoads, same, ?_⟩
  refine (same_of_checksum loads otherLoads (fun collide => collide.1 ?_) same).2 (.inl ?_)
  · rw [contents_twoFiles, contents_twoFiles, texts]
  · refine SourceFile.keepsToml_of_json ?_
    rw [files_twoFiles]
    simp

/-- Where a comment ends with its file, the next file may be read as its continuation: of two
bundles with the same bytes one declares a type and the other none. -/
theorem checksum_ambiguous :
    ¬∀ (rules otherRules : LoadRules) (directory otherDirectory : String)
      (tree other : Option FileTree) (model otherModel : Model),
      ofDirectory rules directory tree = .ok model →
      ofDirectory otherRules otherDirectory other = .ok otherModel →
      ¬Digest.Collide (contents (rules.files directory tree))
        (contents (otherRules.files otherDirectory other)) →
      model.checksum = otherModel.checksum → model = otherModel := by
  intro identified
  have comment : Document.ofText .toml "# shared types" = .ok ⟨[]⟩ := by decide +kernel
  have order : Document.ofText .toml "[[types]]\nname = \"Order\"\n" = .ok ⟨[named "Order"]⟩ := by
    decide +kernel
  have longer : Document.ofText .toml "# shared types[[types]]\n" = .ok ⟨[]⟩ := by decide +kernel
  have unknown : Document.ofText .toml "name = \"Order\"\n" = .ok ⟨[]⟩ := by decide +kernel
  have texts : "# shared types" ++ "[[types]]\nname = \"Order\"\n" =
      "# shared types[[types]]\n" ++ "name = \"Order\"\n" := by decide
  obtain ⟨model, loads, types, checksum⟩ :=
    exists_ofDirectory_twoFiles comment order (by decide)
  obtain ⟨other, otherLoads, otherTypes, otherChecksum⟩ :=
    exists_ofDirectory_twoFiles longer unknown (by decide)
  have same := identified .standard .standard "" "" _ _ model other loads otherLoads
    (fun collide => collide.1 (by rw [contents_twoFiles, contents_twoFiles, texts]))
    (by rw [checksum, otherChecksum, texts])
  rw [same, otherTypes] at types
  cases types

end Model

end SchemaProjection
