import SchemaProjection.Proofs.FileName
import SchemaProjection.Proofs.Insertion

/-!
# Loaded directories

Of a directory those files are read whose names have the extension of an encoding and whose paths
inside the directory begin as the rules ask (`LoadRules.Reads`), once each and in the ascending
order of the names that lead to them (`LoadRules.Lists`). They make up a model exactly when each
is a text and a document and no type is declared twice. The model then has the types of the
documents one after the other, and the checksum of the texts one after the other
(`Model.Gathers`). Otherwise the fault is that of the first file that adds nothing to the types
declared before it (`Model.FirstRefused`). No more of the tree matters than its files
(`Model.ofDirectory_loads`).
-/
namespace SchemaProjection

namespace Checksum

/-- The bytes of a sequence one by one. -/
theorem toList_bytes (bytes : ByteArray) : bytes.toList = bytes.data.toList := by
  have looped (index : Nat) (done : List UInt8) :
      ByteArray.toList.loop bytes index done = done.reverse ++ bytes.data.toList.drop index := by
    induction index, done using ByteArray.toList.loop.induct bytes with
    | case1 index done inside ih =>
      have within : index < bytes.data.toList.length := inside
      have next : bytes.get! index = bytes.data.toList[index] :=
        getElem!_pos bytes.data index inside
      rw [ByteArray.toList.loop, if_pos inside, ih, List.drop_eq_getElem_cons within, next,
        List.reverse_cons, List.append_assoc, List.singleton_append]
    | case2 index done outside =>
      have short : bytes.data.toList.length ≤ index := Nat.le_of_not_lt outside
      rw [ByteArray.toList.loop, if_neg outside, List.drop_eq_nil_of_le short, List.append_nil]
  exact looped 0 []

/-- Texts one after the other have their bytes one after the other. -/
theorem textBytes_append (front back : String) :
    textBytes (front ++ back) = textBytes front ++ textBytes back := by
  simp only [textBytes, toList_bytes, String.toUTF8_eq_toByteArray, String.toByteArray_append,
    ByteArray.toList_data_append]

/-- A list of texts has the bytes of the texts one after the other. -/
theorem textBytes_join (texts : List String) :
    textBytes (String.join texts) = texts.flatMap textBytes := by
  induction texts with
  | nil => rw [String.join_nil, textBytes, toList_bytes]; rfl
  | cons text rest ih => rw [String.join_cons, textBytes_append, ih, List.flatMap_cons]

/-- The bytes of a decoded text are those that were decoded. -/
theorem textBytes_of_decoded {bytes : List UInt8} {text : String}
    (decoded : Text.decoded? bytes = some text) : textBytes text = bytes := by
  rw [Text.decoded?, String.fromUTF8?] at decoded
  split at decoded
  · cases decoded
    rw [textBytes, toList_bytes]
    rfl
  · cases decoded

end Checksum

namespace Encoding

/-- How the names of files in an encoding end. -/
def extension : Encoding → String
  | .json => "json"
  | .toml => "toml"

/-- Each encoding has its extension. -/
theorem ofExtension?_eq_some_iff {ending : String} {encoding : Encoding} :
    ofExtension? ending = some encoding ↔ ending = encoding.extension := by
  rw [ofExtension?]
  split
  case isTrue json => cases encoding <;> simp [json, extension]
  case isFalse json =>
    split
    case isTrue toml => cases encoding <;> simp [toml, extension]
    case isFalse toml => cases encoding <;> simp [json, toml, extension]

/-- The extension of an encoding is not divided. -/
theorem extension_undotted (encoding : Encoding) :
    Text.pathSeparator ∉ encoding.extension.toList := by
  cases encoding <;> decide

end Encoding

/-- The name of a file below a directory, which is the last of the names that lead to it; if the
directory is itself a file, its own name. -/
def fileName (directory : String) (names : List String) : String :=
  (names.getLast?.or (FileTree.parts directory).getLast?).getD ""

namespace LoadRules

/-- The rules let a file below a directory be read in an encoding: something stands before the
extension of the encoding in its name, and its path inside the directory begins in one of the ways
that are included, if there are any, and in none of those that are skipped. -/
structure Reads (rules : LoadRules) (directory : String) (names : List String)
    (encoding : Encoding) : Prop where
  /-- The name of the file. -/
  named : ∃ stem, stem ≠ "" ∧ fileName directory names = stem ++ "." ++ encoding.extension
  /-- The path begins in an included way. -/
  included : rules.included = [] ∨
    ∃ beginning ∈ rules.included, beginning.toList <+: (Text.joined "/" names).toList
  /-- The path begins in no skipped way. -/
  kept : ∀ beginning ∈ rules.skipped, ¬beginning.toList <+: (Text.joined "/" names).toList

/-- Files with the names that lead to them, as they are read below a directory. -/
structure Lists (rules : LoadRules) (directory : String) (tree : FileTree)
    (files : List (List String × SourceFile)) : Prop where
  /-- The names ascend, by the first that differs, so that no file is read twice. -/
  ascends : files.Pairwise fun first second => first.1 < second.1
  /-- The files are those of the tree that the rules let be read. -/
  mem_iff : ∀ names file, (names, file) ∈ files ↔
    tree.get? names = some (.file file.content) ∧ rules.Reads directory names file.encoding ∧
      file.path = pathBelow directory (Text.joined "/" names)

/-- A path is admitted by how it begins. -/
theorem admits_iff {rules : LoadRules} {relative : String} :
    rules.admits relative = true ↔
      (rules.included = [] ∨ ∃ beginning ∈ rules.included, beginning.toList <+: relative.toList) ∧
        ∀ beginning ∈ rules.skipped, ¬beginning.toList <+: relative.toList := by
  simp only [admits, Text.begins, Bool.and_eq_true, Bool.or_eq_true, List.isEmpty_iff,
    List.any_eq_true, Bool.not_eq_true', List.any_eq_false, List.isPrefixOf_iff_prefix]

/-- The last part of the path of a file is its name. -/
theorem last_part_of_named (directory : String) {names : List String}
    (named : ∀ name ∈ names, FileTree.IsName name) :
    (FileTree.parts (pathBelow directory (Text.joined "/" names))).getLast? =
      some (fileName directory names) := by
  cases names with
  | nil =>
    obtain ⟨last, found⟩ := Option.isSome_iff_exists.mp
      (List.getLast?_isSome.mpr (FileTree.parts_ne_nil directory))
    rw [fileName, List.getLast?_nil, Option.none_or, found]
    exact found
  | cons name rest =>
    have nonempty : name :: rest ≠ [] := List.cons_ne_nil _ _
    have parts := FileTree.parts_joined nonempty named
    have inside : Text.joined "/" (name :: rest) ≠ "" := by
      intro empty
      rw [empty] at parts
      exact (named name List.mem_cons_self).1 (List.cons.inj parts).1.symm
    rw [FileTree.getLast?_parts_pathBelow directory inside, parts, fileName,
      List.getLast?_eq_some_getLast nonempty]
    rfl

/-- A file is read exactly if the rules let it be read in an encoding. -/
theorem sourceFile?_eq_some_iff {rules : LoadRules} {directory : String} {names : List String}
    {content : List UInt8} {file : SourceFile}
    (named : ∀ name ∈ names, FileTree.IsName name) :
    rules.sourceFile? directory names content = some file ↔
      content = file.content ∧ rules.Reads directory names file.encoding ∧
        file.path = pathBelow directory (Text.joined "/" names) := by
  have extended (encoding : Encoding) :
      (∃ ending, extension? (fileName directory names) = some ending ∧
        Encoding.ofExtension? ending = some encoding) ↔
        ∃ stem, stem ≠ "" ∧ fileName directory names = stem ++ "." ++ encoding.extension := by
    rw [← extension?_eq_some_iff encoding.extension_undotted]
    simp only [Encoding.ofExtension?_eq_some_iff, exists_eq_right]
  simp only [sourceFile?, last_part_of_named directory named, Option.bind_eq_bind,
    Option.bind_some, Option.bind_eq_some_iff, Option.ite_none_right_eq_some, Option.some.injEq]
  constructor
  · rintro ⟨ending, found, encoding, known, admitted, rfl⟩
    obtain ⟨included, kept⟩ := admits_iff.mp admitted
    exact ⟨rfl, ⟨(extended encoding).mp ⟨ending, found, known⟩, included, kept⟩, rfl⟩
  · rintro ⟨rfl, reads, path⟩
    obtain ⟨ending, found, known⟩ := (extended file.encoding).mpr reads.named
    exact ⟨ending, found, file.encoding, known, admits_iff.mpr ⟨reads.included, reads.kept⟩,
      path ▸ rfl⟩

/-- The names that lead to something in a tree are names of files. -/
theorem isName_of_get? {tree found : FileTree} (proper : tree.Proper) {names : List String}
    (leads : tree.get? names = some found) : ∀ name ∈ names, FileTree.IsName name := by
  induction proper generalizing names with
  | file content =>
    cases names with
    | nil => exact List.forall_mem_nil _
    | cons name rest => cases leads
  | @directory entries distinct named below ih =>
    cases names with
    | nil => exact List.forall_mem_nil _
    | cons name rest =>
      rw [FileTree.get?] at leads
      split at leads
      case h_1 inner entered =>
        have held := (Entries.lookup_eq_some_iff distinct).mp entered
        exact List.forall_mem_cons.mpr ⟨named _ held, ih _ held leads⟩
      case h_2 => cases leads

/-- The files that are read of a tree. -/
theorem exists_lists (rules : LoadRules) (directory : String) {tree : FileTree}
    (proper : tree.Proper) :
    ∃ files, rules.Lists directory tree files ∧
      rules.sourceFiles directory tree = files.map Prod.snd := by
  refine ⟨tree.walk.filterMap fun met =>
    (rules.sourceFile? directory met.1 met.2).map (met.1, ·), ⟨?_, ?_⟩, ?_⟩
  · rw [List.pairwise_filterMap]
    refine (FileTree.walk_ascends proper).imp fun before => ?_
    intro first listed second behind
    obtain ⟨_, -, rfl⟩ := Option.map_eq_some_iff.mp listed
    obtain ⟨_, -, rfl⟩ := Option.map_eq_some_iff.mp behind
    exact before
  · intro names file
    simp only [List.mem_filterMap, Prod.exists, Option.map_eq_some_iff, Prod.mk.injEq]
    constructor
    · rintro ⟨_, content, met, _, read, rfl, rfl⟩
      have leads := (FileTree.mem_walk_iff proper).mp met
      obtain ⟨rfl, reads, path⟩ := (sourceFile?_eq_some_iff (isName_of_get? proper leads)).mp read
      exact ⟨leads, reads, path⟩
    · rintro ⟨leads, reads, path⟩
      exact ⟨names, file.content, (FileTree.mem_walk_iff proper).mpr leads, file,
        (sourceFile?_eq_some_iff (isName_of_get? proper leads)).mpr ⟨rfl, reads, path⟩, rfl, rfl⟩
  · rw [sourceFiles, List.map_filterMap]
    refine List.filterMap_congr fun met _ => ?_
    rw [Option.map_map]
    exact Option.map_id'.symm

/-- What is read of a tree is determined by its files. -/
theorem Lists.unique {rules : LoadRules} {directory : String} {tree : FileTree}
    {first second : List (List String × SourceFile)} (one : rules.Lists directory tree first)
    (other : rules.Lists directory tree second) : first = second :=
  FileTree.eq_of_ascending one.ascends other.ascends fun (names, file) =>
    (one.mem_iff names file).trans (other.mem_iff names file).symm

end LoadRules

/-- What is read from a file. -/
structure Reading where
  /-- Its text. -/
  text : String
  /-- The document that the text is. -/
  document : Document

/-- The types that are declared in what was read, one after the other. -/
def Reading.declared (readings : List Reading) : List TypeDecl :=
  readings.flatMap fun reading => reading.document.types

namespace SourceFile

/-- A file holds a reading: its bytes are the text, and the text is the document. -/
structure Holds (file : SourceFile) (reading : Reading) : Prop where
  /-- The bytes are the text. -/
  decoded : Text.decoded? file.content = some reading.text
  /-- The text is the document in the encoding of the file. -/
  parsed : Document.ofText file.encoding reading.text = .ok reading.document

/-- Why a file adds nothing to declared types of some names. -/
inductive Refused (file : SourceFile) (declared : List String) : LoadFault → Prop
  /-- Its bytes are no text. -/
  | unreadable (undecoded : Text.decoded? file.content = none) :
    Refused file declared (.unreadable file.path)
  /-- The text of the file is no document of its encoding. -/
  | malformed {text : String} {fault : DocumentFault}
    (decoded : Text.decoded? file.content = some text)
    (refused : Document.ofText file.encoding text = .error fault) :
    Refused file declared (.malformed file.encoding file.path)
  /-- A name is declared already, and those before it in its document are not. -/
  | duplicate {reading : Reading} {before after : List TypeDecl} {decl : TypeDecl}
    (holds : file.Holds reading) (divided : reading.document.types = before ++ decl :: after)
    (distinct : (declared ++ before.map TypeDecl.name).Nodup)
    (again : decl.name ∈ declared ++ before.map TypeDecl.name) :
    Refused file declared (.duplicate ⟨decl.name⟩ file.path)

end SourceFile

namespace Model

/-- A model is made up of files: of their types one after the other, whose names are distinct, with
the checksum of their texts one after the other. -/
def Gathers (files : List SourceFile) (model : Model) : Prop :=
  ∃ readings, List.Forall₂ SourceFile.Holds files readings ∧
    ((Reading.declared readings).map TypeDecl.name).Nodup ∧
      model.types = Reading.declared readings ∧
        model.checksum = some (.ofContent (String.join (readings.map Reading.text)))

/-- The fault is that of the first of the files that adds nothing to the types before it. -/
def FirstRefused (files : List SourceFile) (fault : LoadFault) : Prop :=
  ∃ before file after readings, files = before ++ file :: after ∧
    List.Forall₂ SourceFile.Holds before readings ∧
      ((Reading.declared readings).map TypeDecl.name).Nodup ∧
        file.Refused ((Reading.declared readings).map TypeDecl.name) fault

variable {model larger : Model} {bytes more : List UInt8} {file : SourceFile}
  {files : List SourceFile} {fault : LoadFault}

/-- A file that holds a document of new types is added. -/
theorem addFile_of_extended {reading : Reading} (holds : file.Holds reading)
    (extended : model.extend reading.document = (larger, none)) :
    addFile (model, bytes) file = .ok (larger, bytes ++ file.content) := by
  simp only [addFile, holds.decoded, bind, Except.bind, holds.parsed, extended]

/-- A file that holds a document with a name that is declared already is refused. -/
theorem addFile_of_duplicate {reading : Reading} {duplicate : Duplicate}
    (holds : file.Holds reading)
    (extended : model.extend reading.document = (larger, some duplicate)) :
    addFile (model, bytes) file = .error (.duplicate duplicate file.path) := by
  simp only [addFile, holds.decoded, bind, Except.bind, holds.parsed, extended]

/-- A file whose bytes are no text is refused. -/
theorem addFile_of_undecoded (undecoded : Text.decoded? file.content = none) :
    addFile (model, bytes) file = .error (.unreadable file.path) := by
  simp only [addFile, undecoded]
  rfl

/-- A file whose text is no document is refused. -/
theorem addFile_of_unparsed {text : String} {unparsed : DocumentFault}
    (decoded : Text.decoded? file.content = some text)
    (refused : Document.ofText file.encoding text = .error unparsed) :
    addFile (model, bytes) file = .error (.malformed file.encoding file.path) := by
  simp only [addFile, decoded, bind, Except.bind, refused]

/-- A file holds a document of new types and is added, or it adds nothing and is refused. -/
theorem addFile_cases (model : Model) (bytes : List UInt8) (file : SourceFile) :
    (∃ larger reading, addFile (model, bytes) file = .ok (larger, bytes ++ file.content) ∧
      file.Holds reading ∧ model.extend reading.document = (larger, none)) ∨
    ∃ fault, addFile (model, bytes) file = .error fault ∧
      file.Refused (model.types.map TypeDecl.name) fault := by
  cases decoded : Text.decoded? file.content with
  | none => exact .inr ⟨_, addFile_of_undecoded decoded, .unreadable decoded⟩
  | some text =>
    cases parsed : Document.ofText file.encoding text with
    | error fault => exact .inr ⟨_, addFile_of_unparsed decoded parsed, .malformed decoded parsed⟩
    | ok document =>
      have holds : file.Holds ⟨text, document⟩ := ⟨decoded, parsed⟩
      obtain ⟨larger, refused⟩ | ⟨larger, duplicate, refused⟩ :
          (∃ larger, model.extend document = (larger, none)) ∨
            ∃ larger duplicate, model.extend document = (larger, some duplicate) := by
        cases model.extend document with
        | mk larger refused => cases refused <;> simp
      · exact .inl ⟨larger, _, addFile_of_extended holds refused, holds, refused⟩
      · obtain ⟨before, decl, after, divided, distinct, again, rfl, -, -⟩ :=
          insertAll_eq_some_iff.mp refused
        exact .inr ⟨_, addFile_of_duplicate holds refused,
          .duplicate holds divided distinct again⟩

/-- A file is added exactly when it holds a document of new types. -/
theorem addFile_eq_ok_iff :
    addFile (model, bytes) file = .ok (larger, more) ↔
      ∃ reading, file.Holds reading ∧
        (model.types.map TypeDecl.name ++ reading.document.types.map TypeDecl.name).Nodup ∧
          larger.types = model.types ++ reading.document.types ∧
            larger.checksum = model.checksum ∧ more = bytes ++ file.content := by
  constructor
  · intro added
    obtain ⟨_, reading, same, holds, extended⟩ | ⟨_, same, -⟩ := addFile_cases model bytes file
    · cases added.symm.trans same
      obtain ⟨distinct, types, checksum⟩ := insertAll_eq_none_iff.mp extended
      exact ⟨reading, holds, distinct, types, checksum, rfl⟩
    · cases added.symm.trans same
  · rintro ⟨reading, holds, distinct, types, checksum, rfl⟩
    exact addFile_of_extended holds (insertAll_eq_none_iff.mpr ⟨distinct, types, checksum⟩)

/-- A file is refused exactly when it adds nothing to the types of the model. -/
theorem addFile_eq_error_iff :
    addFile (model, bytes) file = .error fault ↔
      file.Refused (model.types.map TypeDecl.name) fault := by
  constructor
  · intro fails
    obtain ⟨_, _, same, -, -⟩ | ⟨_, same, refused⟩ := addFile_cases model bytes file
    · cases fails.symm.trans same
    · cases fails.symm.trans same
      exact refused
  · rintro (undecoded | ⟨decoded, refused⟩ | ⟨holds, divided, distinct, again⟩)
    · exact addFile_of_undecoded undecoded
    · exact addFile_of_unparsed decoded refused
    case duplicate reading before after decl =>
      have unique : (model.types ++ before).map TypeDecl.name |>.Nodup := by
        rwa [List.map_append]
      have extended : model.extend reading.document =
          (⟨model.types ++ before, unique, model.checksum⟩, some ⟨decl.name⟩) :=
        insertAll_eq_some_iff.mpr
          ⟨before, decl, after, divided, distinct, again, rfl, rfl, rfl⟩
      exact addFile_of_duplicate holds extended

/-- The first file is added before the others. -/
theorem addFiles_cons (loaded : Model × List UInt8) (file : SourceFile) (rest : List SourceFile) :
    addFiles loaded (file :: rest) =
      match addFile loaded file with
      | .ok more => addFiles more rest
      | .error fault => .error fault := by
  rw [addFiles]
  cases addFile loaded file <;> rfl

/-- The types of a reading stand before those of further ones. -/
theorem append_declared_cons (types : List TypeDecl) (reading : Reading) (rest : List Reading) :
    types ++ Reading.declared (reading :: rest) =
      (types ++ reading.document.types) ++ Reading.declared rest :=
  (List.append_assoc _ _ _).symm

/-- The names of a reading stand before those of further ones. -/
theorem names_declared_cons (types : List TypeDecl) (reading : Reading) (rest : List Reading) :
    types.map TypeDecl.name ++ (Reading.declared (reading :: rest)).map TypeDecl.name =
      (types ++ reading.document.types).map TypeDecl.name ++
        (Reading.declared rest).map TypeDecl.name := by
  rw [← List.map_append, append_declared_cons, List.map_append]

/-- Files are added exactly when they hold documents of new and distinct types. -/
theorem addFiles_eq_ok_iff :
    addFiles (model, bytes) files = .ok (larger, more) ↔
      ∃ readings, List.Forall₂ SourceFile.Holds files readings ∧
        (model.types.map TypeDecl.name ++ (Reading.declared readings).map TypeDecl.name).Nodup ∧
          larger.types = model.types ++ Reading.declared readings ∧
            larger.checksum = model.checksum ∧
              more = bytes ++ files.flatMap SourceFile.content := by
  induction files generalizing model bytes with
  | nil =>
    simp only [addFiles, Except.ok.injEq, Prod.mk.injEq, List.forall₂_nil_left_iff,
      exists_eq_left, Reading.declared, List.flatMap_nil, List.map_nil, List.append_nil,
      model.unique, true_and]
    constructor
    · rintro ⟨rfl, rfl⟩
      exact ⟨rfl, rfl, rfl⟩
    · rintro ⟨types, checksum, rfl⟩
      exact ⟨eq_of_types types.symm checksum.symm, rfl⟩
  | cons file rest ih =>
    rw [addFiles_cons]
    simp only [List.forall₂_cons_left_iff, List.flatMap_cons]
    constructor
    · intro added
      split at added
      case h_1 next first =>
        obtain ⟨reading, holds, -, types, checksum, read⟩ := addFile_eq_ok_iff.mp first
        obtain ⟨readings, held, distinct, further, same, rfl⟩ := ih.mp added
        refine ⟨_, ⟨reading, readings, holds, held, rfl⟩, ?_, ?_, same.trans checksum, ?_⟩
        · rwa [names_declared_cons, ← types]
        · rw [further, types, append_declared_cons]
        · rw [read, List.append_assoc]
      · cases added
    · rintro ⟨_, ⟨reading, readings, holds, held, rfl⟩, distinct, types, checksum, rfl⟩
      rw [names_declared_cons] at distinct
      have unique := distinct.of_append_left
      have first : addFile (model, bytes) file =
          .ok (⟨_, unique, model.checksum⟩, bytes ++ file.content) :=
        addFile_eq_ok_iff.mpr ⟨reading, holds, by rwa [← List.map_append], rfl, rfl, rfl⟩
      rw [first]
      exact ih.mpr ⟨readings, held, distinct, types.trans (append_declared_cons _ _ _), checksum,
        (List.append_assoc _ _ _).symm⟩

/-- Adding files fails with the fault of the first file that adds nothing to the types before it. -/
theorem addFiles_eq_error_iff :
    addFiles (model, bytes) files = .error fault ↔
      ∃ before file after readings, files = before ++ file :: after ∧
        List.Forall₂ SourceFile.Holds before readings ∧
          (model.types.map TypeDecl.name ++ (Reading.declared readings).map TypeDecl.name).Nodup ∧
            file.Refused (model.types.map TypeDecl.name ++
              (Reading.declared readings).map TypeDecl.name) fault := by
  induction files generalizing model bytes with
  | nil => simp [addFiles]
  | cons file rest ih =>
    rw [addFiles_cons]
    constructor
    · intro fails
      split at fails
      case h_1 next first =>
        obtain ⟨reading, holds, -, types, -, -⟩ := addFile_eq_ok_iff.mp first
        obtain ⟨before, bad, after, readings, rfl, held, distinct, refused⟩ := ih.mp fails
        rw [types, ← names_declared_cons] at distinct refused
        exact ⟨file :: before, bad, after, reading :: readings, rfl, .cons holds held, distinct,
          refused⟩
      case h_2 refused first =>
        cases fails
        refine ⟨[], file, rest, [], rfl, .nil, ?_, ?_⟩
        · simpa [Reading.declared] using model.unique
        · simpa [Reading.declared] using addFile_eq_error_iff.mp first
    · rintro ⟨before, bad, after, readings, divided, held, distinct, refused⟩
      cases held with
      | nil =>
        obtain ⟨rfl, rfl⟩ := List.cons.inj divided
        have first : addFile (model, bytes) file = .error fault :=
          addFile_eq_error_iff.mpr (by simpa [Reading.declared] using refused)
        rw [first]
      | @cons good reading before readings holds held =>
        obtain ⟨rfl, rfl⟩ := List.cons.inj divided
        rw [names_declared_cons] at distinct refused
        have unique := distinct.of_append_left
        have first : addFile (model, bytes) file =
            .ok (⟨_, unique, model.checksum⟩, bytes ++ file.content) :=
          addFile_eq_ok_iff.mpr ⟨reading, holds, by rwa [← List.map_append], rfl, rfl, rfl⟩
        rw [first]
        exact ih.mpr ⟨before, bad, after, readings, rfl, held, distinct, refused⟩

/-- The bytes of files are those of their texts. -/
theorem flatMap_content {readings : List Reading}
    (held : List.Forall₂ SourceFile.Holds files readings) :
    files.flatMap SourceFile.content =
      Checksum.textBytes (String.join (readings.map Reading.text)) := by
  rw [Checksum.textBytes_join]
  induction held with
  | nil => rfl
  | cons holds _ ih =>
    rw [List.flatMap_cons, List.map_cons, List.flatMap_cons, ih,
      Checksum.textBytes_of_decoded holds.decoded]

/-- The files that are read are added to the model without types. -/
theorem ofDirectory_some (rules : LoadRules) (directory : String) (tree : FileTree) :
    ofDirectory rules directory (some tree) =
      (addFiles (empty, []) (rules.sourceFiles directory tree)).map fun loaded =>
        { loaded.1 with checksum := some (.ofBytes loaded.2) } := by
  rw [ofDirectory, Option.map_some, Option.getD_some]
  cases addFiles (empty, []) (rules.sourceFiles directory tree) <;> rfl

/-- A directory is loaded exactly when the files that are read make up a model. -/
theorem ofDirectory_eq_ok_iff {rules : LoadRules} {directory : String} {tree : FileTree} :
    ofDirectory rules directory (some tree) = .ok model ↔
      Gathers (rules.sourceFiles directory tree) model := by
  rw [ofDirectory_some]
  constructor
  · intro loads
    cases added : addFiles (empty, []) (rules.sourceFiles directory tree) with
    | error fault =>
      rw [added] at loads
      cases loads
    | ok loaded =>
      rw [added] at loads
      cases loads
      obtain ⟨readings, held, distinct, types, -, read⟩ := addFiles_eq_ok_iff.mp added
      exact ⟨readings, held, distinct, types, congrArg (fun bytes => some (Checksum.ofBytes bytes))
        (read.trans (flatMap_content held))⟩
  · rintro ⟨readings, held, distinct, types, checksum⟩
    have added : addFiles (empty, []) (rules.sourceFiles directory tree) =
        .ok (⟨_, distinct, none⟩, (rules.sourceFiles directory tree).flatMap SourceFile.content) :=
      addFiles_eq_ok_iff.mpr ⟨readings, held, distinct, rfl, rfl, rfl⟩
    rw [added, flatMap_content held]
    exact congrArg Except.ok (eq_of_types types.symm checksum.symm)

/-- Loading a directory fails with the fault of the first file that adds nothing to the types before
it. -/
theorem ofDirectory_eq_error_iff {rules : LoadRules} {directory : String} {tree : FileTree} :
    ofDirectory rules directory (some tree) = .error fault ↔
      FirstRefused (rules.sourceFiles directory tree) fault := by
  have added : addFiles (empty, []) (rules.sourceFiles directory tree) = .error fault ↔
      FirstRefused (rules.sourceFiles directory tree) fault := addFiles_eq_error_iff
  rw [ofDirectory_some, ← added]
  cases addFiles (empty, []) (rules.sourceFiles directory tree) <;> simp [Except.map]

/-- A single document is a model exactly when the names of its types are distinct. -/
theorem ofDocument_eq_ok_iff {document : Document} {content : String} :
    ofDocument document content = .ok model ↔
      (document.types.map TypeDecl.name).Nodup ∧ model.types = document.types ∧
        model.checksum = some (.ofContent content) := by
  rw [ofDocument]
  constructor
  · intro made
    split at made
    · cases made
    case h_2 larger extended =>
      cases made
      obtain ⟨distinct, types, -⟩ := insertAll_eq_none_iff.mp extended
      exact ⟨distinct, types, rfl⟩
  · rintro ⟨distinct, types, checksum⟩
    have extended : empty.extend document = (⟨_, distinct, none⟩, none) :=
      insertAll_eq_none_iff.mpr ⟨distinct, rfl, rfl⟩
    rw [extended]
    exact congrArg Except.ok (eq_of_types types.symm checksum.symm)

/-- A single file makes up the model of its document. -/
theorem gathers_singleton_iff {text : String} (decoded : Text.decoded? file.content = some text) :
    Gathers [file] model ↔
      ∃ document, Document.ofText file.encoding text = .ok document ∧
        ofDocument document text = .ok model := by
  simp only [ofDocument_eq_ok_iff]
  have joined : String.join [text] = text := by simp
  have declared (document : Document) : Reading.declared [⟨text, document⟩] = document.types :=
    List.append_nil _
  constructor
  · rintro ⟨_, held, distinct, types, checksum⟩
    obtain ⟨⟨other, document⟩, _, holds, nothing, rfl⟩ := List.forall₂_cons_left_iff.mp held
    cases nothing
    obtain rfl : text = other := Option.some.inj (decoded.symm.trans holds.decoded)
    rw [declared] at distinct types
    exact ⟨document, holds.parsed, distinct, types, joined ▸ checksum⟩
  · rintro ⟨document, parsed, distinct, types, checksum⟩
    refine ⟨[⟨text, document⟩], .cons ⟨decoded, parsed⟩ .nil, ?_⟩
    rw [declared]
    exact ⟨distinct, types, joined.symm ▸ checksum⟩

/-- What loading a directory comes to: a function of the files of its tree, read in the order of
their names. -/
structure LoadsInOrder (rules : LoadRules) (directory : String) (tree : FileTree) : Prop where
  /-- There is a list of the files that are read. -/
  listed : ∃ files, rules.Lists directory tree files
  /-- The directory is loaded exactly when the files that are read make up a model. -/
  loaded : ∀ files model, rules.Lists directory tree files →
    (ofDirectory rules directory (some tree) = .ok model ↔ Gathers (files.map Prod.snd) model)
  /-- Loading the directory fails with the fault of the first file that adds nothing. -/
  refused : ∀ files fault, rules.Lists directory tree files →
    (ofDirectory rules directory (some tree) = .error fault ↔
      FirstRefused (files.map Prod.snd) fault)
  /-- A single file is loaded as its text alone is. -/
  alone : ∀ names file text model, rules.Lists directory tree [(names, file)] →
    Text.decoded? file.content = some text →
      (ofDirectory rules directory (some tree) = .ok model ↔
        ∃ document, Document.ofText file.encoding text = .ok document ∧
          ofDocument document text = .ok model)
  /-- A tree with the same files is loaded with the same result. -/
  determined : ∀ other : FileTree, other.Proper →
    (∀ names content,
      other.get? names = some (.file content) ↔ tree.get? names = some (.file content)) →
    ofDirectory rules directory (some other) = ofDirectory rules directory (some tree)

/-- Directories are loaded in the order of the names that lead to their files. -/
theorem ofDirectory_loadsInOrder (rules : LoadRules) (directory : String) {tree : FileTree}
    (proper : tree.Proper) : LoadsInOrder rules directory tree := by
  obtain ⟨files, lists, read⟩ := rules.exists_lists directory proper
  have sources {others : List (List String × SourceFile)}
      (listed : rules.Lists directory tree others) :
      rules.sourceFiles directory tree = others.map Prod.snd := by
    rw [read, lists.unique listed]
  refine ⟨⟨files, lists⟩, ?_, ?_, ?_, ?_⟩
  · intro others model listed
    rw [ofDirectory_eq_ok_iff, sources listed]
  · intro others fault listed
    rw [ofDirectory_eq_error_iff, sources listed]
  · intro names file text model listed decoded
    rw [ofDirectory_eq_ok_iff, sources listed]
    exact gathers_singleton_iff decoded
  · intro other otherProper same
    rw [ofDirectory_some, ofDirectory_some, LoadRules.sourceFiles,
      FileTree.walk_congr otherProper proper same]
    rfl

/-- Two documents, one of them in a directory of its own, beside notes and what a build left. -/
def orderFiles : FileTree :=
  .directory [
    ("target", .directory [("a.json", .file (Checksum.textBytes "[]"))]),
    ("a.json", .file (Checksum.textBytes r#"{"types": [{"name": "Order"}]}"#)),
    ("notes.txt", .file (Checksum.textBytes "later")),
    ("a", .directory [("z.json", .file (Checksum.textBytes r#"{"types": [{"name": "Line"}]}"#))])]

/-- The two documents of the tree are loaded in the order of their names. -/
theorem orderFiles_loadsInOrder :
    orderFiles.Proper ∧ LoadsInOrder .standard "declarations" orderFiles := by
  have proper : orderFiles.Proper := by
    refine .directory (by decide) (by simp [FileTree.IsName]) ?_
    simp only [List.forall_mem_cons]
    refine ⟨.directory (by decide) (by simp [FileTree.IsName]) ?_, .file _, .file _,
      .directory (by decide) (by simp [FileTree.IsName]) ?_, List.forall_mem_nil _⟩
    · simpa using .file _
    · simpa using .file _
  exact ⟨proper, ofDirectory_loadsInOrder .standard "declarations" proper⟩

end Model

end SchemaProjection
