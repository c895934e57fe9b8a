import SchemaProjection.Proofs.SavedValues
import SchemaProjection.Proofs.SettingOverride
import SchemaProjection.Proofs.TomlStart

/-!
# Saved settings are loaded again

Settings are saved line by line: headers, names with values, and blank lines between the groups.
Each line is taken as what it says and up to its end (`IsLine`), so the document holds every
single setting under its name (`ofText_saved`) and is a layer that gives each setting the value it
was saved with (`value?_savedLayer`). Where it is the only source, whether once or by several
names, the settings are loaded as they were (`settings_of_saved`).
-/
namespace SchemaProjection

open SettingValue (given?)

namespace Toml

open Settings (savedLine savedList savedText textChars)
open Text (Reader)

variable {name text rest : List Char} {content : Line}

/-- A text is a line, whatever follows it. -/
structure IsLine (text : List Char) (content : Line) : Prop where
  /-- The line is not empty. -/
  nonempty : text ≠ []
  /-- The only line end in the text is the line feed. -/
  feeds : '\r' ∉ text
  /-- The line is taken up to its end. -/
  taken : ∀ rest, line (text ++ rest) = some (content, rest)

/-- Lines after each other are taken one by one. -/
theorem repeated_lines {lines : List (List Char × Line)}
    (all : ∀ each ∈ lines, IsLine each.1 each.2) :
    Reader.repeated line (lines.flatMap Prod.fst) = (lines.map Prod.snd, []) := by
  induction lines with
  | nil =>
    have last : line [] = some (.blank, []) := rfl
    rw [List.flatMap_nil, Reader.repeated, last]
    rfl
  | cons first lines ih =>
    rw [List.forall_mem_cons] at all
    rw [List.flatMap_cons, Reader.repeated_of_some (all.1.taken _), ih all.2]
    · rfl
    · have longer := List.length_pos_iff.mpr all.1.nonempty
      rw [List.length_append]
      omega

/-- A name without quotes begins with none of the other characters. -/
theorem head_bare (nonempty : name ≠ []) (bare : ∀ c ∈ name, isBareChar c = true)
    (rest : List Char) {d : Char} (other : isBareChar d = false) :
    ∀ c ∈ (name ++ rest).head?, c ≠ d := by
  cases name with
  | nil => exact absurd rfl nonempty
  | cons first name =>
    rintro c held rfl
    cases held
    rw [bare _ List.mem_cons_self] at other
    cases other

/-- Nothing is dropped from a text that does not begin with a blank. -/
theorem dropWhile_isBlank (visible : ∀ c ∈ text.head?, isBlank c = false) :
    text.dropWhile isBlank = text := by
  cases text with
  | nil => rfl
  | cons c rest =>
    refine List.dropWhile_cons_of_neg ?_
    rw [visible c rfl]
    exact Bool.false_ne_true

/-- No blanks stand before a name without quotes. -/
theorem blanks_bare (nonempty : name ≠ []) (bare : ∀ c ∈ name, isBareChar c = true)
    (rest : List Char) : (name ++ rest).dropWhile isBlank = name ++ rest := by
  refine dropWhile_isBlank fun c first => ?_
  rw [isBlank, Bool.or_eq_false_iff, beq_eq_false_iff_ne, beq_eq_false_iff_ne]
  exact ⟨head_bare nonempty bare rest rfl c first, head_bare nonempty bare rest rfl c first⟩

/-- A name without quotes is taken as a segment of a key, with the blanks behind it. -/
theorem segment_bare (nonempty : name ≠ []) (bare : ∀ c ∈ name, isBareChar c = true)
    (ends : ∀ c ∈ rest.head?, isBareChar c = false) :
    segment (name ++ rest) = some (String.ofList name, rest.dropWhile isBlank) := by
  have basic : basicText (name ++ rest) = none := by
    rw [basicText, Reader.bind_apply, Reader.char_eq_none (head_bare nonempty bare rest rfl)]
    rfl
  have literal : literalText (name ++ rest) = none := by
    rw [literalText, Reader.bind_apply, Reader.char_eq_none (head_bare nonempty bare rest rfl)]
    rfl
  rw [segment, Reader.bind_apply, blanks_apply, blanks_bare nonempty bare, Option.bind_some,
    Reader.bind_apply, Reader.orElse_apply, Reader.orElse_apply, basic, literal, Option.none_or,
    Option.none_or]
  cases name with
  | nil => exact absurd rfl nonempty
  | cons c name =>
    rw [List.forall_mem_cons] at bare
    rw [List.cons_append, Reader.bind_apply, Reader.satisfying_cons bare.1, Option.bind_some,
      Reader.bind_apply, Reader.spanning_append bare.2 ends]
    rfl

/-- A name without quotes is taken as a key, if no dot follows. -/
theorem key_bare (nonempty : name ≠ []) (bare : ∀ c ∈ name, isBareChar c = true)
    (ends : ∀ c ∈ rest.head?, isBareChar c = false)
    (whole : ∀ c ∈ (rest.dropWhile isBlank).head?, c ≠ '.') :
    key (name ++ rest) = some (([], String.ofList name), rest.dropWhile isBlank) := by
  have dotless : (Reader.char '.' *> segment) (rest.dropWhile isBlank) = none := by
    rw [Reader.seqRight_apply, Reader.char_eq_none whole]
    rfl
  rw [key, Reader.bind_apply, Reader.separated, Reader.bind_apply, segment_bare nonempty bare ends,
    Option.bind_some, Reader.bind_apply, Reader.many, Reader.repeated_of_none dotless]
  rfl

/-- An empty line is a line. -/
theorem isLine_blank : IsLine ['\n'] .blank := ⟨List.cons_ne_nil _ _, by decide, fun _ => rfl⟩

/-- A name without quotes holds no carriage return. -/
theorem not_mem_bare (bare : ∀ c ∈ name, isBareChar c = true) : '\r' ∉ name := fun held => by
  cases bare _ held

/-- A name in brackets is a line. -/
theorem isLine_header (nonempty : name ≠ []) (bare : ∀ c ∈ name, isBareChar c = true) :
    IsLine ('[' :: (name ++ [']', '\n'])) (.table [] (String.ofList name)) := by
  refine ⟨List.cons_ne_nil _ _, by simp [not_mem_bare bare], fun rest => ?_⟩
  have single : Reader.maybe (Reader.char '[') (name ++ ']' :: '\n' :: rest) =
      some (none, name ++ ']' :: '\n' :: rest) :=
    Reader.maybe_of_none (Reader.char_eq_none (head_bare nonempty bare _ rfl))
  have named : key (name ++ ']' :: '\n' :: rest) =
      some (([], String.ofList name), ']' :: '\n' :: rest) := by
    refine key_bare nonempty bare ?_ ?_ <;> (rintro c first; cases first)
    · rfl
    · decide
  have header : line.header ('[' :: (name ++ ']' :: '\n' :: rest)) =
      some (.table [] (String.ofList name), '\n' :: rest) := by
    rw [line.header, Reader.bind_apply, Reader.char_cons, Option.bind_some, Reader.bind_apply,
      single, Option.bind_some, Reader.bind_apply, named]
    rfl
  have whole : '[' :: (name ++ [']', '\n']) ++ rest = '[' :: (name ++ ']' :: '\n' :: rest) := by
    simp
  have blanks : blanks ('[' :: (name ++ ']' :: '\n' :: rest)) =
    some ((), '[' :: (name ++ ']' :: '\n' :: rest)) := rfl
  rw [whole, line, Reader.bind_apply, blanks, Option.bind_some, Reader.bind_apply,
    Reader.orElse_apply, header, Option.some_or]
  rfl

/-- A name with a value is a line. -/
theorem isLine_assignment {read : Value} (nonempty : name ≠ [])
    (bare : ∀ c ∈ name, isBareChar c = true)
    (visible : ∀ c ∈ text.head?, isBlank c = false) (feeds : '\r' ∉ text)
    (taken : ∀ rest, value (depthLimit - 1) (text ++ '\n' :: rest) = some (read, '\n' :: rest)) :
    IsLine (name ++ ' ' :: '=' :: ' ' :: (text ++ ['\n']))
      (.assignment ⟨[], String.ofList name, read⟩) := by
  refine ⟨List.append_ne_nil_of_left_ne_nil nonempty _, by simp [not_mem_bare bare, feeds],
    fun rest => ?_⟩
  have headless : line.header (name ++ ' ' :: '=' :: ' ' :: (text ++ '\n' :: rest)) = none :=
    header_eq_none (head_bare nonempty bare _ rfl)
  have named : key (name ++ ' ' :: '=' :: ' ' :: (text ++ '\n' :: rest)) =
      some (([], String.ofList name), '=' :: ' ' :: (text ++ '\n' :: rest)) := by
    refine key_bare nonempty bare ?_ ?_ <;> (rintro c first; cases first)
    · rfl
    · decide
  have shown : blanks (' ' :: (text ++ '\n' :: rest)) = some ((), text ++ '\n' :: rest) := by
    have kept : (text ++ '\n' :: rest).dropWhile isBlank = text ++ '\n' :: rest := by
      refine dropWhile_isBlank fun c first => ?_
      rw [List.head?_append, Option.mem_def, Option.or_eq_some_iff] at first
      rcases first with first | ⟨-, first⟩
      · exact visible c first
      · cases first
        rfl
    rw [blanks_apply, List.dropWhile_cons_of_pos rfl, kept]
  have assigned : line.assignment (name ++ ' ' :: '=' :: ' ' :: (text ++ '\n' :: rest)) =
      some (.assignment ⟨[], String.ofList name, read⟩, '\n' :: rest) := by
    rw [line.assignment, Reader.map_apply, pair, Reader.bind_apply, named, Option.bind_some]
    dsimp only
    rw [Reader.bind_apply, Reader.char_cons, Option.bind_some, Reader.bind_apply, shown,
      Option.bind_some, Reader.bind_apply, taken]
    rfl
  have whole : name ++ ' ' :: '=' :: ' ' :: (text ++ ['\n']) ++ rest =
      name ++ ' ' :: '=' :: ' ' :: (text ++ '\n' :: rest) := by
    simp
  rw [whole, line, Reader.bind_apply, blanks_apply, blanks_bare nonempty bare, Option.bind_some,
    Reader.bind_apply, Reader.orElse_apply, headless, Option.none_or, Reader.orElse_apply,
    assigned, Option.some_or]
  rfl

/-- A text without carriage returns keeps its line ends. -/
theorem withLineFeeds_of_not_mem (lineless : '\r' ∉ text) : withLineFeeds text = text := by
  induction text with
  | nil => rfl
  | cons c rest ih =>
    rw [List.mem_cons, not_or] at lineless
    rw [withLineFeeds_cons (Ne.symm lineless.1), ih lineless.2]

/-- A text of lines that begins with a bracket is the document of the lines. -/
theorem ofText_of_lines {whole : String} {lines : List (List Char × Line)}
    {entries : List (String × Node)} (made : whole.toList = lines.flatMap Prod.fst)
    (bracket : whole.toList.head? = some '[')
    (all : ∀ each ∈ lines, IsLine each.1 each.2)
    (opened : document [] [] (lines.map Prod.snd) = some entries) :
    ofText whole = some (Node.finishedEntries entries) := by
  have plain : withoutMark whole.toList = whole.toList := by
    rw [withoutMark]
    rintro rest same
    rw [same] at bracket
    cases bracket
  have lineless : '\r' ∉ whole.toList := by
    rw [made, List.mem_flatMap]
    rintro ⟨each, listed, held⟩
    exact (all each listed).feeds held
  have taken : Reader.whole? (Reader.many line) whole.toList = some (lines.map Prod.snd) := by
    rw [Reader.whole?, Reader.many, made, repeated_lines all]
  rw [ofText, plain, withLineFeeds_of_not_mem lineless, taken, Option.bind_eq_bind,
    Option.bind_some, opened]
  rfl

end Toml

namespace Settings

open Toml (IsLine Line)

/-- The header of a group. -/
def headerLine (name : String) : List Char × Line :=
  ('[' :: (name.toList ++ [']', '\n']), .table [] name)

/-- A line with a value. -/
def valueLine (name value : String) (read : Toml.Value) : List Char × Line :=
  ((savedLine name value).toList, .assignment ⟨[], name, read⟩)

/-- A line with a text. -/
def textLine (name content : String) : List Char × Line :=
  valueLine name (savedText content) (.text content)

/-- A line with a list of texts. -/
def listLine (name : String) (items : List String) : List Char × Line :=
  valueLine name (savedList items) (.array (items.map .text))

/-- A line with a truth value. -/
def boolLine (name : String) (truth : Bool) : List Char × Line :=
  valueLine name (toString truth) (.bool truth)

/-- The lines of saved settings. -/
def savedLines (settings : Settings) : List (List Char × Line) :=
  [headerLine "compiler",
    textLine "method_prefix" settings.compiler.methodLead,
    listLine "extra_scalar_types" settings.compiler.extraScalars,
    boolLine "suggest_fields" settings.compiler.suggestsFields,
    (['\n'], .blank), headerLine "declarations",
    textLine "path" settings.declarations.path,
    listLine "skip_prefixes" settings.declarations.rules.skipped,
    listLine "include_prefixes" settings.declarations.rules.included,
    (['\n'], .blank), headerLine "output",
    textLine "format" settings.output.layout.name,
    boolLine "include_schema" settings.output.includesSchema]

/-- A name without quotes. -/
def IsBare (name : String) : Prop := name ≠ "" ∧ ∀ c ∈ name.toList, Toml.isBareChar c = true

section Lines

variable {name : String} (bare : IsBare name)

include bare

/-- A name without quotes has characters. -/
theorem IsBare.toList_ne_nil : name.toList ≠ [] := fun empty =>
  bare.1 (String.toList_inj.mp empty)

/-- The header of a group is a line. -/
theorem isLine_headerLine : IsLine (headerLine name).1 (headerLine name).2 := by
  have line := Toml.isLine_header bare.toList_ne_nil bare.2
  rwa [String.ofList_toList] at line

/-- A value that is read back is on a line. -/
theorem isLine_valueLine {value : String} {read : Toml.Value}
    (visible : ∀ c ∈ value.toList.head?, Toml.isBlank c = false) (feeds : '\r' ∉ value.toList)
    (taken : ∀ rest, Toml.value (Toml.depthLimit - 1) (value.toList ++ '\n' :: rest) =
      some (read, '\n' :: rest)) :
    IsLine (valueLine name value read).1 (valueLine name value read).2 := by
  have line := Toml.isLine_assignment bare.toList_ne_nil bare.2 visible feeds taken
  have chars : (savedLine name value).toList =
      name.toList ++ ' ' :: '=' :: ' ' :: (value.toList ++ ['\n']) := by
    simp [savedLine]
  rwa [String.ofList_toList, ← chars] at line

/-- A saved text with its name is on a line. -/
theorem isLine_textLine (content : String) :
    IsLine (textLine name content).1 (textLine name content).2 := by
  have chars : (savedText content).toList = textChars content := String.toList_ofList
  refine isLine_valueLine bare ?_ ?_ fun rest => ?_
  · rw [chars, ← List.append_nil (textChars content)]
    intro c first
    obtain rfl | rfl := Toml.head_textChars content [] c first <;> rfl
  · rw [chars]
    exact Toml.not_mem_textChars content
  · rw [chars]
    refine Toml.value_textChars (Toml.depthLimit - 1) content ?_
    rintro c first
    cases first
    decide

/-- A saved list of texts with its name is on a line. -/
theorem isLine_listLine (items : List String) :
    IsLine (listLine name items).1 (listLine name items).2 := by
  have depth : Toml.depthLimit - 1 = 78 + 1 := rfl
  have bracket : (savedList items).toList.head? = some '[' := by
    match items with
    | [] => rfl
    | [only] => simp [savedList]
    | first :: second :: items => rw [Toml.toList_savedList]; rfl
  refine isLine_valueLine bare ?_ (Toml.not_mem_savedList items) fun rest => ?_
  · rw [bracket]
    rintro c first
    cases first
    rfl
  · rw [depth]
    exact Toml.value_savedList 78 items _

/-- A saved truth value with its name is on a line. -/
theorem isLine_boolLine (truth : Bool) :
    IsLine (boolLine name truth).1 (boolLine name truth).2 := by
  have chars : (toString truth).toList = Json.boolChars truth := by cases truth <;> rfl
  refine isLine_valueLine bare ?_ ?_ fun rest => Toml.value_bool (Toml.depthLimit - 1) truth _
  · rw [chars]
    cases truth <;> (rintro c first; cases first; rfl)
  · rw [chars]
    cases truth <;> decide

end Lines

/-- Every part of saved settings is a line. -/
theorem isLine_savedLines (settings : Settings) :
    ∀ each ∈ savedLines settings, IsLine each.1 each.2 := by
  have bare : ∀ name ∈ ["compiler", "method_prefix", "extra_scalar_types", "suggest_fields",
      "declarations", "path", "skip_prefixes", "include_prefixes", "output", "format",
      "include_schema"], IsBare name := by
    simp [IsBare, Toml.isBareChar]
  simp only [List.forall_mem_cons] at bare
  obtain ⟨compiler, lead, scalars, suggests, declarations, path, skips, includes, output, format,
    schema, -⟩ := bare
  simp only [savedLines, List.forall_mem_cons]
  exact ⟨isLine_headerLine compiler, isLine_textLine lead _, isLine_listLine scalars _,
    isLine_boolLine suggests _, Toml.isLine_blank, isLine_headerLine declarations,
    isLine_textLine path _, isLine_listLine skips _, isLine_listLine includes _,
    Toml.isLine_blank, isLine_headerLine output, isLine_textLine format _,
    isLine_boolLine schema _, List.forall_mem_nil _⟩

/-- The text of saved settings is that of the saved lines. -/
theorem toList_saved (settings : Settings) :
    settings.saved.toList = (savedLines settings).flatMap Prod.fst := by
  have compiler : "[compiler]\n".toList = (headerLine "compiler").1 := by decide
  have declarations : "\n[declarations]\n".toList = '\n' :: (headerLine "declarations").1 := by
    decide
  have output : "\n[output]\n".toList = '\n' :: (headerLine "output").1 := by decide
  unfold saved
  dsimp only
  simp only [String.toList_append]
  rw [compiler, declarations, output]
  simp only [savedLines, textLine, listLine, boolLine, valueLine, List.flatMap_cons,
    List.flatMap_nil, List.append_nil, List.cons_append, List.nil_append, List.append_assoc]

/-- The tables of saved settings. -/
def savedTables (settings : Settings) : List (String × Toml.Value) :=
  [("compiler", .table [("method_prefix", .text settings.compiler.methodLead),
      ("extra_scalar_types", .array (settings.compiler.extraScalars.map .text)),
      ("suggest_fields", .bool settings.compiler.suggestsFields)]),
    ("declarations", .table [("path", .text settings.declarations.path),
      ("skip_prefixes", .array (settings.declarations.rules.skipped.map .text)),
      ("include_prefixes", .array (settings.declarations.rules.included.map .text))]),
    ("output", .table [("format", .text settings.output.layout.name),
      ("include_schema", .bool settings.output.includesSchema)])]

/-- Saved settings are read as the saved tables. -/
theorem ofText_saved (settings : Settings) :
    Toml.ofText settings.saved = some settings.savedTables := by
  refine Toml.ofText_of_lines (toList_saved settings) ?_ (isLine_savedLines settings) rfl
  rw [toList_saved]
  rfl

end Settings

namespace Setting

variable {α : Type}

/-- The value of a setting as it is saved. -/
def written : Setting α → α → SettingValue
  | methodLead, content | path, content => .text content
  | extraScalars, items | skipped, items | included, items => .list (items.map .text)
  | suggestsFields, truth | includesSchema, truth => .bool truth
  | layout, shape => .text shape.name

/-- The saved value of a setting is no group. -/
theorem isGroup_written (setting : Setting α) (value : α) :
    (setting.written value).isGroup = false := by
  cases setting <;> rfl

/-- The value of a setting is read back from how it is saved. -/
theorem readSetting_written (setting : Setting α) (value : α) :
    setting.format.readSetting (setting.written value) = .ok value := by
  have list (items : List String) :
      (Format.list .string).readSetting (.list (items.map .text)) = .ok items := by
    change (items.map SettingValue.text).mapM (SettingValue.asText "a string") = .ok items
    induction items with
    | nil => rfl
    | cons item rest ih =>
      rw [List.map_cons, List.mapM_cons, ih]
      rfl
  cases setting with
  | methodLead | path | suggestsFields | includesSchema => rfl
  | extraScalars | skipped | included => exact list value
  | layout => exact value.readSetting_name

/-- A setting under its name. -/
def entry (settings : Settings) (setting : Setting α) : String × SettingValue :=
  (setting.key, setting.written (setting.of settings))

/-- The layer of saved settings, with a group for each of the tables. -/
def savedLayer (settings : Settings) : List (String × SettingValue) :=
  [("compiler", .group [entry settings methodLead, entry settings extraScalars,
      entry settings suggestsFields]),
    ("declarations", .group [entry settings path, entry settings skipped,
      entry settings included]),
    ("output", .group [entry settings layout, entry settings includesSchema])]

/-- Saved settings are read as the saved layer. -/
theorem settings_saved (settings : Settings) :
    Notation.toml.settings settings.saved = .ok (savedLayer settings) := by
  have items (texts : List String) :
      SettingValue.ofTomlItems? (texts.map .text) = some (texts.map .text) := by
    induction texts with
    | nil => rw [List.map_nil, SettingValue.ofTomlItems?]; rfl
    | cons text rest ih => simp [SettingValue.ofTomlItems?, SettingValue.ofToml?, ih]
  have tables : SettingValue.ofTomlTable? settings.savedTables =
      some (.group (savedLayer settings)) := by
    simp [Settings.savedTables, SettingValue.ofTomlTable?, SettingValue.ofTomlEntries?,
      SettingValue.ofToml?, SettingValue.momentName, items, savedLayer, entry, key, written, of]
  rw [Notation.settings, Notation.value, Notation.found, SettingValue.ofTomlText?,
    Settings.ofText_saved, Option.bind_some, tables]
  rfl

/-- The saved layer gives each setting the value as it was saved. -/
theorem given?_savedLayer (settings : Settings) (setting : Setting α) :
    given? setting.group setting.key (savedLayer settings) =
      some (setting.written (setting.of settings)) := by
  have compiler : SettingValue.smallName "compiler" = "compiler" := smallName_group methodLead
  have declarations : SettingValue.smallName "declarations" = "declarations" := smallName_group path
  have output : SettingValue.smallName "output" = "output" := smallName_group layout
  rw [savedLayer, SettingValue.given?_cons, SettingValue.given?_cons, SettingValue.given?_cons]
  simp only [SettingValue.entryValue?, SettingValue.last?, entry, List.map_cons, List.map_nil,
    compiler, declarations, output, smallName_key]
  cases setting <;> simp [SettingValue.given?, group, key, List.lookup_cons]

/-- Saved settings are a layer of settings. -/
theorem isLayer_savedLayer (settings : Settings) : IsLayer (savedLayer settings) where
  entries := by
    have group {α : Type} (setting : Setting α) (entries : List (String × SettingValue)) :
        SettingValue.IsEntry (setting.group, .group entries) :=
      .group (by rw [smallName_group]; exact setting.group_mem)
    simp only [savedLayer, List.forall_mem_cons]
    exact ⟨group methodLead _, group path _, group layout _, nofun⟩
  meaning setting written given := by
    rw [given?_savedLayer] at given
    cases given
    exact ⟨setting.isGroup_written _, _, setting.readSetting_written _⟩

/-- The layer of saved settings gives each setting the value that was saved. -/
theorem value?_savedLayer (settings : Settings) (setting : Setting α) :
    setting.value? (savedLayer settings) = some (setting.of settings) := by
  rw [value?, given?_savedLayer, Option.bind_some, readSetting_written]
  rfl

/-- Copies of saved settings over each other are the settings, and so are they with empty layers
among them. -/
theorem layered_of_copies {settings : Settings} {layers : List (List (String × SettingValue))}
    (copies : ∀ layer ∈ layers, layer = [] ∨ layer = savedLayer settings)
    (saved : savedLayer settings ∈ layers) :
    IsLayer layers.flatten ∧ layered layers.flatten = settings := by
  have all : ∀ layer ∈ layers, IsLayer layer := fun layer held => by
    rcases copies layer held with rfl | rfl
    · exact ⟨nofun, nofun⟩
    · exact isLayer_savedLayer settings
  obtain ⟨isLayer, last⟩ := isLayer_flatten all
  refine ⟨isLayer, ext fun setting => ?_⟩
  rw [layered, of_collected, last]
  cases found : layers.reverse.findSome? setting.value? with
  | none =>
    have missing := List.findSome?_eq_none_iff.mp found _ (List.mem_reverse.mpr saved)
    rw [value?_savedLayer] at missing
    cases missing
  | some value =>
    obtain ⟨layer, held, given⟩ := List.exists_of_findSome?_eq_some found
    rcases copies layer (List.mem_reverse.mp held) with rfl | rfl
    · cases given
    · rw [value?_savedLayer] at given
      exact (Option.some.inj given).symm

end Setting

namespace Surroundings

variable {surroundings : Surroundings} {settings : Settings} {path : String}

/-- The settings of a file to which settings were saved are the saved layer. -/
theorem fileLayer_of_saved (isRequired : Bool)
    (found : surroundings.firstFile (candidates path) = some (.toml, settings.saved)) :
    surroundings.fileLayer isRequired path = .ok (Setting.savedLayer settings) := by
  rw [fileLayer, found]
  exact congrArg (Except.mapError _) (Setting.settings_saved settings)

/-- Files of which each is the saved one, or may be missing and is, hold copies of its layer. -/
theorem exists_holds_of_saved {files : List (Bool × String)}
    (each : ∀ file ∈ files, surroundings.firstFile (candidates file.2) =
      some (.toml, settings.saved) ∨ file.1 = false ∧
        surroundings.firstFile (candidates file.2) = none) :
    ∃ layers : List (List (String × SettingValue)), surroundings.Holds files layers.flatten ∧
      (∀ layer ∈ layers, layer = [] ∨ layer = Setting.savedLayer settings) ∧
      ((∃ file ∈ files, file.1 = true) → Setting.savedLayer settings ∈ layers) := by
  induction files with
  | nil => exact ⟨[], .nil, nofun, nofun⟩
  | cons file files ih =>
    rw [List.forall_mem_cons] at each
    obtain ⟨layers, holds, copies, required⟩ := ih each.2
    rcases each.1 with found | ⟨optional, missing⟩
    · refine ⟨Setting.savedLayer settings :: layers, ?_, ?_, fun _ => List.mem_cons_self⟩
      · exact .cons (fileLayer_of_saved file.1 found) holds
      · exact List.forall_mem_cons.mpr ⟨.inr rfl, copies⟩
    · refine ⟨[] :: layers, ?_, List.forall_mem_cons.mpr ⟨.inl rfl, copies⟩, ?_⟩
      · refine .cons ?_ holds
        rw [fileLayer, missing, optional]
        rfl
      · rintro ⟨other, held, must⟩
        rcases List.mem_cons.mp held with rfl | held
        · rw [optional] at must
          cases must
        · exact List.mem_cons_of_mem _ (required ⟨other, held, must⟩)

/-- The file at a path is the only source of settings: there are no other files and no
variables. -/
structure Alone (surroundings : Surroundings) (path : String) : Prop where
  /-- Each other file of settings is missing, or is this one by another name. -/
  files : ∀ other ∈ fixedFiles ++ (surroundings.home.map userFile).toList,
    surroundings.firstFile (candidates other) = none ∨
      surroundings.firstFile (candidates other) = surroundings.firstFile (candidates path)
  /-- No variable is one of a setting. -/
  environment : ∀ entry ∈ surroundings.environment,
    ¬variableLead <+: (SettingValue.smallName entry.1).toList

/-- Where a file is the only source of settings, the environment is an empty layer. -/
theorem Alone.environmentLayer (alone : surroundings.Alone path) :
    surroundings.environmentLayer = [] := by
  refine List.filterMap_eq_nil_iff.mpr fun entry held => ?_
  have other := alone.environment entry held
  rw [← List.isPrefixOf_iff_prefix] at other
  exact if_neg other

/-- Settings that were saved to a file are loaded from it as they were, whether the path of the file
begins at the root or in a working directory. -/
theorem settings_of_saved {tree after : FileTree} {working : List String}
    (saves : tree.write? path (Checksum.textBytes settings.saved) working = some after)
    (extension : Notation.ofPath? path = some .toml)
    (present : surroundings.at? path = after.at? path working)
    (alone : surroundings.Alone path) :
    surroundings.settings (some path) = .ok settings := by
  have there : surroundings.at? path = some (.file (Checksum.textBytes settings.saved)) := by
    rw [present]
    exact (FileTree.writes_of_write? saves).written
  have found := firstFile_candidates there extension
  have each : ∀ file ∈ surroundings.files (some path),
      surroundings.firstFile (candidates file.2) = some (.toml, settings.saved) ∨
        file.1 = false ∧ surroundings.firstFile (candidates file.2) = none := by
    have other (name : String)
        (listed : name ∈ fixedFiles ++ (surroundings.home.map userFile).toList) :=
      (alone.files name listed).symm.imp (fun same => same.trans found) fun missing =>
        And.intro (rfl : false = false) missing
    intro file held
    rw [files, List.mem_append, List.mem_append] at held
    rcases held with (fixed | user) | asked
    · obtain ⟨name, listed, rfl⟩ := List.mem_map.mp fixed
      exact other name (List.mem_append_left _ listed)
    · obtain ⟨name, listed, rfl⟩ := List.mem_map.mp user
      rw [Option.mem_toList, Option.filter_eq_some_iff] at listed
      exact other name (List.mem_append_right _ (Option.mem_toList.mpr listed.1))
    · obtain rfl : file = (true, path) := by simpa using asked
      exact .inl found
  obtain ⟨layers, holds, copies, required⟩ := exists_holds_of_saved each
  have saved : Setting.savedLayer settings ∈ layers :=
    required ⟨(true, path), by simp [files], rfl⟩
  obtain ⟨isLayer, same⟩ := Setting.layered_of_copies copies saved
  rw [← List.append_nil layers.flatten, ← alone.environmentLayer] at isLayer same
  rw [settings_of_holds holds isLayer, same]

/-- Settings with quotes, backslashes, line ends and a control character, and with empty lists. -/
def inkSettings : Settings where
  compiler := ⟨"say \"'hi'\"\\\n", ["'''\x01", "\"\"\"\\\t", ""], false⟩
  declarations := ⟨"é\r", [], ["'", "\\"]⟩
  output := ⟨.compact, false⟩

/-- A file system in which work is done in one directory and settings are kept in another one. -/
def deskTree : FileTree := .directory [("desk", .empty), ("kept", .empty)]

/-- The file system with the file to which the settings with control characters are saved. -/
def inkTree : FileTree :=
  .directory [("desk", .empty),
    ("kept", .directory [("ink.toml", .file (Checksum.textBytes inkSettings.saved))])]

/-- The surroundings in which `ink.toml` is the only source of settings. -/
def ink : Surroundings where
  at? path := inkTree.at? path ["desk"]
  home := none
  environment := []

/-- Settings with control characters are saved to an absolute path and loaded from it as they
were. -/
theorem ink_settings :
    (deskTree.write? "/kept/ink.toml" (Checksum.textBytes inkSettings.saved) ["desk"] =
        some inkTree ∧
      Notation.ofPath? "/kept/ink.toml" = some .toml ∧
      ink.at? "/kept/ink.toml" = inkTree.at? "/kept/ink.toml" ["desk"] ∧
      ink.Alone "/kept/ink.toml") ∧
    ink.settings (some "/kept/ink.toml") = .ok inkSettings := by
  have saves : deskTree.write? "/kept/ink.toml" (Checksum.textBytes inkSettings.saved) ["desk"] =
      some inkTree := by
    generalize kept : Checksum.textBytes inkSettings.saved = content
    rw [inkTree, kept]
    rfl
  have extension : Notation.ofPath? "/kept/ink.toml" = some .toml := by decide +kernel
  have alone : ink.Alone "/kept/ink.toml" := by
    have missing (content : List UInt8) : ∀ other ∈ fixedFiles, firstFile
        ⟨fun path => FileTree.at? (.directory [("desk", .empty),
          ("kept", .directory [("ink.toml", .file content)])]) path ["desk"], none, []⟩
        (candidates other) = none := by
      simp only [fixedFiles, List.forall_mem_cons]
      exact ⟨rfl, rfl, rfl, List.forall_mem_nil _⟩
    exact ⟨fun other listed => .inl (missing _ other (by simpa [ink] using listed)),
      List.forall_mem_nil _⟩
  exact ⟨⟨saves, extension, rfl, alone⟩, settings_of_saved saves extension rfl alone⟩

end Surroundings

end SchemaProjection
