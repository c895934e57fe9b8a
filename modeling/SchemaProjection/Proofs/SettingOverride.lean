import Mathlib.Tactic.FinCases
import SchemaProjection.Proofs.BundleChecksum
import SchemaProjection.Proofs.SettingLayers

/-!
# Settings from several sources

Each single setting is found by the names of its group and of itself, and is read by a format of
its own (`Setting`). Settings that are read from a value have what is found there of each, and
otherwise what they have when none is given, whether or not the group is there at all
(`Setting.readSetting_of_reads`). Layers over each other are one layer, in which the last one that
gives a setting a value counts (`Setting.isLayer_flatten`). So it is with the files and the
environment from which settings are taken (`Surroundings.settings_of_sources`).
-/
namespace SchemaProjection

open SettingValue (given?)

namespace Format

variable {α values draft : Type}

/-- Read what is found of a setting; where nothing is found, it has a standard value. -/
def readFound (format : Format α) (standard : α) : Option SettingValue → Except SettingFault α
  | some value => format.readSetting value
  | none => .ok standard

/-- A field that may be left out is read as what is found under its name, before the others. -/
theorem readSettings_defaulted {format : Format α} {name : String} {standard value : α}
    {others : Fields values draft} {read : values} {entries : List (String × SettingValue)}
    (first : format.readFound standard (entries.lookup name) = .ok value)
    (rest : others.readSettings entries = .ok read) :
    (Fields.defaulted name format standard others).readSettings entries = .ok (value, read) := by
  rw [Fields.defaulted, Fields.readSettings]
  cases found : entries.lookup name with
  | none | some =>
    rw [found, readFound] at first
    simp only [found, first, rest]
    rfl

/-- A group is read as a record of what stands in it; where it is missing, as an empty one. -/
theorem readFound_group {layout : Fields values draft} {build : values → α} {parts : α → values}
    {standard : α} (empty : (layout.readSettings []).map build = .ok standard) (name : String)
    {found : Option SettingValue} (grouped : ∀ value, found = some value → value.isGroup = true) :
    (Format.record name layout build parts).readFound standard found =
      (layout.readSettings (found.getD .missing).entries).map build := by
  cases found with
  | none => exact empty.symm
  | some value =>
    rw [SettingValue.eq_group_of_isGroup (grouped value rfl)]
    rfl

end Format

/-- A layout is read from its name. -/
theorem Layout.readSetting_name (layout : Layout) :
    Layout.format.readSetting (.text layout.name) = .ok layout := by
  have pretty : SettingValue.smallName "pretty" = "pretty" := by decide +kernel
  have compact : SettingValue.smallName "compact" = "compact" := by decide +kernel
  rw [Layout.format, Format.readSetting]
  cases layout <;>
    simp [Format.readSettingChoice, Format.readSettingOption, Layout.name, pretty, compact]

/-- The single settings, with the types of their values. -/
inductive Setting : Type → Type where
  /-- What the names of methods begin with. -/
  | methodLead : Setting String
  /-- The scalar types besides the built-in ones. -/
  | extraScalars : Setting (List String)
  /-- Whether fields are suggested. -/
  | suggestsFields : Setting Bool
  /-- The directory of the documents. -/
  | path : Setting String
  /-- The beginnings of paths that are skipped. -/
  | skipped : Setting (List String)
  /-- The beginnings of paths that are read. -/
  | included : Setting (List String)
  /-- How results are laid out. -/
  | layout : Setting Layout
  /-- Whether the schema is written. -/
  | includesSchema : Setting Bool

namespace Setting

variable {α : Type}

/-- The name of the group of a setting. -/
def group : Setting α → String
  | methodLead | extraScalars | suggestsFields => "compiler"
  | path | skipped | included => "declarations"
  | layout | includesSchema => "output"

/-- The name of a setting in its group. -/
def key : Setting α → String
  | methodLead => "method_prefix"
  | extraScalars => "extra_scalar_types"
  | suggestsFields => "suggest_fields"
  | path => "path"
  | skipped => "skip_prefixes"
  | included => "include_prefixes"
  | layout => "format"
  | includesSchema => "include_schema"

/-- The format of the values of a setting. -/
def format : Setting α → Format α
  | methodLead => .string
  | path => .text "path string"
  | extraScalars | skipped | included => .list .string
  | suggestsFields | includesSchema => .bool
  | layout => Layout.format

/-- The value of a setting among all settings. -/
def of : Setting α → Settings → α
  | methodLead, settings => settings.compiler.methodLead
  | extraScalars, settings => settings.compiler.extraScalars
  | suggestsFields, settings => settings.compiler.suggestsFields
  | path, settings => settings.declarations.path
  | skipped, settings => settings.declarations.rules.skipped
  | included, settings => settings.declarations.rules.included
  | layout, settings => settings.output.layout
  | includesSchema, settings => settings.output.includesSchema

/-- The settings with a value for each. -/
def collected (value : ∀ {α : Type}, Setting α → α) : Settings where
  compiler := ⟨value methodLead, value extraScalars, value suggestsFields⟩
  declarations := ⟨value path, ⟨value skipped, value included⟩⟩
  output := ⟨value layout, value includesSchema⟩

/-- Each of the collected settings has its value. -/
theorem of_collected (setting : Setting α) (value : ∀ {α : Type}, Setting α → α) :
    setting.of (collected value) = value setting := by
  cases setting <;> rfl

/-- Settings are the same if each single one is. -/
theorem ext {settings other : Settings}
    (same : ∀ {α : Type} (setting : Setting α), setting.of settings = setting.of other) :
    settings = other := by
  obtain ⟨⟨_, _, _⟩, ⟨_, _, _⟩, ⟨_, _⟩⟩ := settings
  obtain ⟨⟨_, _, _⟩, ⟨_, _, _⟩, ⟨_, _⟩⟩ := other
  have lead := same methodLead
  have scalars := same extraScalars
  have suggests := same suggestsFields
  have directory := same path
  have skips := same skipped
  have includes := same included
  have shape := same layout
  have schema := same includesSchema
  simp only [of] at lead scalars suggests directory skips includes shape schema
  simp only [lead, scalars, suggests, directory, skips, includes, shape, schema]

/-- The group of a setting is one of the groups. -/
theorem group_mem (setting : Setting α) : setting.group ∈ SettingValue.groupNames := by
  cases setting <;> decide

/-- The names of groups are in small letters. -/
theorem smallName_group (setting : Setting α) :
    SettingValue.smallName setting.group = setting.group := by
  cases setting <;> decide +kernel

/-- The names of settings are in small letters. -/
theorem smallName_key (setting : Setting α) :
    SettingValue.smallName setting.key = setting.key := by
  cases setting <;> decide +kernel

/-- A setting is read as a value: as what is found of it, or else as what it is when none is
given. -/
def Reads (setting : Setting α) (found : Option SettingValue) (value : α) : Prop :=
  setting.format.readFound (setting.of .standard) found = .ok value

/-- Settings are read from a value if each single one is. -/
theorem readSetting_of_reads {value : SettingValue} (grouped : value.Grouped) {settings : Settings}
    (reads : ∀ {α : Type} (setting : Setting α),
      setting.Reads (value.leaf? setting.group setting.key) (setting.of settings)) :
    Settings.format.readSetting value = .ok settings := by
  have inner (group : String) (named : group ∈ SettingValue.groupNames) :=
    grouped.inner group named
  have read {α : Type} (setting : Setting α) :
      setting.format.readFound (setting.of .standard)
        (((value.entries.lookup setting.group).getD .missing).entries.lookup setting.key) =
          .ok (setting.of settings) := by
    rw [SettingValue.lookup_getD rfl]
    exact reads setting
  have compiler : CompilerSettings.format.readFound .standard (value.entries.lookup "compiler") =
      .ok settings.compiler := by
    rw [CompilerSettings.format, Format.readFound_group rfl _ (inner "compiler" (by decide))]
    exact congrArg (Except.map _) <| Format.readSettings_defaulted (read methodLead) <|
      Format.readSettings_defaulted (read extraScalars) <|
      Format.readSettings_defaulted (read suggestsFields) rfl
  have declarations : DeclarationSettings.format.readFound .standard
      (value.entries.lookup "declarations") = .ok settings.declarations := by
    rw [DeclarationSettings.format, Format.readFound_group rfl _ (inner "declarations" (by decide))]
    exact congrArg (Except.map _) <| Format.readSettings_defaulted (read path) <|
      Format.readSettings_defaulted (read skipped) <|
      Format.readSettings_defaulted (read included) rfl
  have output : OutputSettings.format.readFound .standard (value.entries.lookup "output") =
      .ok settings.output := by
    rw [OutputSettings.format, Format.readFound_group rfl _ (inner "output" (by decide))]
    exact congrArg (Except.map _) <| Format.readSettings_defaulted (read layout) <|
      Format.readSettings_defaulted (read includesSchema) rfl
  rw [SettingValue.eq_group_of_isGroup grouped.isGroup, Settings.format]
  exact congrArg (Except.map _) <| Format.readSettings_defaulted compiler <|
    Format.readSettings_defaulted declarations <| Format.readSettings_defaulted output rfl

/-- The value that a layer gives to a setting. -/
def value? (setting : Setting α) (layer : List (String × SettingValue)) : Option α :=
  (given? setting.group setting.key layer).bind fun written =>
    (setting.format.readSetting written).toOption

/-- A layer of settings, each of which has a meaning. -/
structure IsLayer (layer : List (String × SettingValue)) : Prop where
  /-- The layer is made of groups and single settings. -/
  entries : ∀ entry ∈ layer, SettingValue.IsEntry entry
  /-- What the layer gives to a setting is a value of the setting. -/
  meaning : ∀ {α : Type} (setting : Setting α) (written : SettingValue),
    given? setting.group setting.key layer = some written →
      written.isGroup = false ∧ ∃ value, setting.format.readSetting written = .ok value

/-- Whether what a layer gives to a setting, if anything, is a value of it. -/
def isMeant (setting : Setting α) (layer : List (String × SettingValue)) : Bool :=
  (given? setting.group setting.key layer).all fun written =>
    !written.isGroup && (setting.format.readSetting written).toBool

/-- Entries are a layer if what they give to each setting is a value of it. -/
theorem isLayer_of_isMeant {layer : List (String × SettingValue)}
    (entries : ∀ entry ∈ layer, SettingValue.IsEntry entry)
    (meant : ∀ {α : Type} (setting : Setting α), setting.isMeant layer = true) : IsLayer layer := by
  refine ⟨entries, fun setting written given => ?_⟩
  have all := meant setting
  rw [isMeant, given, Option.all_some, Bool.and_eq_true, Bool.not_eq_true'] at all
  refine ⟨all.1, ?_⟩
  cases read : setting.format.readSetting written with
  | ok value => exact ⟨value, rfl⟩
  | error fault => rw [read] at all; cases all.2

/-- A layer over another one gives a setting its value, unless it gives none. -/
theorem value?_append (setting : Setting α) (layer : List (String × SettingValue))
    {above : List (String × SettingValue)} (isLayer : IsLayer above) :
    setting.value? (layer ++ above) = (setting.value? above).or (setting.value? layer) := by
  rw [value?, SettingValue.given?_append]
  cases given : given? setting.group setting.key above with
  | none => rw [value?, given]; rfl
  | some written =>
    obtain ⟨-, value, read⟩ := isLayer.meaning setting written given
    have last : setting.value? above = some value := by
      rw [value?, given, Option.bind_some, read]
      rfl
    rw [last, Option.some_or, Option.some_or, Option.bind_some, read]
    rfl

/-- Layers over each other are one layer. -/
theorem IsLayer.append {layer above : List (String × SettingValue)} (below : IsLayer layer)
    (isLayer : IsLayer above) : IsLayer (layer ++ above) where
  entries entry held := (List.mem_append.mp held).elim (below.entries entry)
    (isLayer.entries entry)
  meaning setting written given := by
    rw [SettingValue.given?_append, Option.or_eq_some_iff] at given
    rcases given with last | ⟨-, first⟩
    · exact isLayer.meaning setting written last
    · exact below.meaning setting written first

/-- Any number of layers are one layer, in which the last one that gives a setting a value
counts. -/
theorem isLayer_flatten {layers : List (List (String × SettingValue))}
    (all : ∀ layer ∈ layers, IsLayer layer) :
    IsLayer layers.flatten ∧ ∀ {α : Type} (setting : Setting α),
      setting.value? layers.flatten = layers.reverse.findSome? setting.value? := by
  induction layers with
  | nil => exact ⟨⟨nofun, nofun⟩, fun _ => rfl⟩
  | cons layer rest ih =>
    rw [List.forall_mem_cons] at all
    obtain ⟨isLayer, later⟩ := ih all.2
    refine ⟨all.1.append isLayer, fun setting => ?_⟩
    rw [List.flatten_cons, value?_append setting layer isLayer, later, List.reverse_cons,
      List.findSome?_append, List.findSome?_singleton]

/-- The settings of a layer: each has the value that the layer gives it, or else the one when none
is given. -/
def layered (layer : List (String × SettingValue)) : Settings :=
  collected fun setting => (setting.value? layer).getD (setting.of .standard)

/-- A layer that is put over no settings is read as its settings. -/
theorem IsLayer.readSetting {layer : List (String × SettingValue)} (isLayer : IsLayer layer) :
    ∃ value, (SettingValue.group []).overlay layer = .ok value ∧
      Settings.format.readSetting value = .ok (layered layer) := by
  have empty : (SettingValue.group []).Grouped := ⟨rfl, fun _ _ _ => nofun⟩
  obtain ⟨value, overlaid, grouped, leaves⟩ := SettingValue.leaf?_overlay isLayer.entries empty
  refine ⟨value, overlaid, readSetting_of_reads grouped fun setting => ?_⟩
  rw [leaves _ _ fun written given => (isLayer.meaning setting written given).1, layered,
    of_collected, value?, Reads]
  cases given : given? setting.group setting.key layer with
  | none => rfl
  | some written =>
    obtain ⟨-, value, read⟩ := isLayer.meaning setting written given
    rw [Option.some_or, Format.readFound, Option.bind_some, read]
    rfl

end Setting

namespace SettingValue

/-- A layer that is put over another one follows it. -/
theorem overlay_append (below : SettingValue) (layer above : List (String × SettingValue)) :
    below.overlay (layer ++ above) = below.overlay layer >>= fun next => next.overlay above := by
  induction layer generalizing below with
  | nil => rfl
  | cons entry rest ih =>
    rw [List.cons_append, overlay, overlay]
    cases assignPath? (pathOf entry.1) entry.2 below with
    | none => rfl
    | some next => exact ih next

end SettingValue

namespace Surroundings

variable {surroundings : Surroundings} {asked : Option String}
  {layer above : List (String × SettingValue)}

/-- Files hold a layer of settings: they are put over other settings as the layer is. -/
def Holds (surroundings : Surroundings) (files : List (Bool × String))
    (layer : List (String × SettingValue)) : Prop :=
  ∀ below, surroundings.overlayFiles below files = overlay below layer

/-- A layer that is put over another one follows it. -/
theorem overlay_append (below : SettingValue) (layer above : List (String × SettingValue)) :
    overlay below (layer ++ above) = overlay below layer >>= (overlay · above) := by
  rw [overlay, SettingValue.overlay_append, overlay]
  cases below.overlay layer <;> rfl

/-- No files hold no settings. -/
theorem Holds.nil : surroundings.Holds [] [] := fun _ => rfl

/-- A file holds its settings, over which the settings of the other files are put. -/
theorem Holds.cons {isRequired : Bool} {path : String} {rest : List (Bool × String)}
    (file : surroundings.fileLayer isRequired path = .ok layer)
    (others : surroundings.Holds rest above) :
    surroundings.Holds ((isRequired, path) :: rest) (layer ++ above) := by
  intro below
  rw [overlay_append, overlayFiles, file]
  exact congrArg (overlay below layer >>= ·) (funext others)

/-- The settings are those of the layer that the files hold, below the environment. -/
theorem settings_of_holds (files : surroundings.Holds (surroundings.files asked) layer)
    (isLayer : Setting.IsLayer (layer ++ surroundings.environmentLayer)) :
    surroundings.settings asked =
      .ok (Setting.layered (layer ++ surroundings.environmentLayer)) := by
  obtain ⟨value, overlaid, read⟩ := isLayer.readSetting
  have all : overlay (.group []) (layer ++ surroundings.environmentLayer) = .ok value := by
    rw [overlay, overlaid]
    rfl
  rw [overlay_append] at all
  rw [settings, files, ← bind_assoc, all]
  change (Settings.format.readSetting value).mapError _ = _
  rw [read]
  rfl

/-- The first place where a file is looked for is its own path. -/
theorem candidates_eq_cons (path : String) : ∃ rest, candidates path = path :: rest := by
  rw [candidates]
  split <;> exact ⟨_, rfl⟩

/-- A file that is there with a text is the first one. -/
theorem firstFile_candidates {path text : String} {written : Notation}
    (there : surroundings.at? path = some (.file (Checksum.textBytes text)))
    (extension : Notation.ofPath? path = some written) :
    surroundings.firstFile (candidates path) = some (written, text) := by
  obtain ⟨rest, first⟩ := candidates_eq_cons path
  rw [first, firstFile, there]
  dsimp only
  rw [extension, Checksum.decoded?_textBytes]
  rfl

/-- A file of settings that may be missing provides the settings of its text, or none. -/
inductive Provides (surroundings : Surroundings) (path : String) :
    List (String × SettingValue) → Prop
  /-- There is no file of settings at the path. -/
  | absent (missing : surroundings.firstFile (candidates path) = none) :
      surroundings.Provides path []
  /-- The text of the file is a group of settings. -/
  | present {written : Notation} {content : String} {layer : List (String × SettingValue)}
      (found : surroundings.firstFile (candidates path) = some (written, content))
      (settings : written.settings content = .ok layer) : surroundings.Provides path layer

/-- The user's own file of settings provides its settings, or none. -/
inductive ProvidesUser (surroundings : Surroundings) : List (String × SettingValue) → Prop
  /-- There is no directory of the user's own settings, or no such file in it. -/
  | absent (missing : ∀ home, surroundings.home = some home →
      surroundings.at? (userFile home) = none) : surroundings.ProvidesUser []
  /-- There is a file in the directory of the user's own settings. -/
  | present {home : String} {layer : List (String × SettingValue)}
      (known : surroundings.home = some home)
      (there : (surroundings.at? (userFile home)).isSome = true)
      (provides : surroundings.Provides (userFile home) layer) : surroundings.ProvidesUser layer

/-- The file that is asked for provides its settings, or none is asked for. -/
inductive ProvidesAsked (surroundings : Surroundings) :
    Option String → List (String × SettingValue) → Prop
  /-- No file is asked for. -/
  | absent : surroundings.ProvidesAsked none []
  /-- The text of the file is a group of settings. -/
  | present {path : String} {written : Notation} {content : String}
      {layer : List (String × SettingValue)}
      (found : surroundings.firstFile (candidates path) = some (written, content))
      (settings : written.settings content = .ok layer) :
      surroundings.ProvidesAsked (some path) layer

/-- The layers of all sources, from the first to the last that counts: three files of fixed names,
the user's own file, the file that is asked for, and the environment. -/
inductive Sources (surroundings : Surroundings) (asked : Option String) :
    List (List (String × SettingValue)) → Prop
  /-- Each source of settings provides a layer. -/
  | all {plain hidden config user given : List (String × SettingValue)}
      (fromPlain : surroundings.Provides "projections.toml" plain)
      (fromHidden : surroundings.Provides ".projections.toml" hidden)
      (fromConfig : surroundings.Provides "config/projections.toml" config)
      (fromUser : surroundings.ProvidesUser user)
      (fromGiven : surroundings.ProvidesAsked asked given) :
      surroundings.Sources asked
        [plain, hidden, config, user, given, surroundings.environmentLayer]

/-- What a file provides is its layer. -/
theorem Provides.fileLayer {path : String} (provides : surroundings.Provides path layer) :
    surroundings.fileLayer false path = .ok layer := by
  cases provides with
  | absent missing => rw [Surroundings.fileLayer, missing]; rfl
  | present found settings =>
    rw [Surroundings.fileLayer, found]
    exact congrArg (Except.mapError _) settings

/-- The files hold what they provide, one over the other. -/
theorem Sources.holds {layers : List (List (String × SettingValue))}
    (sources : surroundings.Sources asked layers) :
    ∃ files, layers = files ++ [surroundings.environmentLayer] ∧
      surroundings.Holds (surroundings.files asked) files.flatten := by
  cases sources with
  | @all plain hidden config user given fromPlain fromHidden fromConfig fromUser fromGiven =>
    refine ⟨[plain, hidden, config, user, given], rfl, ?_⟩
    have last : surroundings.Holds (asked.toList.map (true, ·)) [given].flatten := by
      cases fromGiven with
      | absent => exact .nil
      | present found settings =>
        refine .cons ?_ .nil
        rw [fileLayer, found]
        exact congrArg (Except.mapError _) settings
    have own : surroundings.Holds (((surroundings.home.map userFile).filter fun path =>
        (surroundings.at? path).isSome).toList.map (false, ·) ++ asked.toList.map (true, ·))
        [user, given].flatten := by
      cases fromUser with
      | absent missing =>
        have unused : ((surroundings.home.map userFile).filter fun path =>
            (surroundings.at? path).isSome) = none := by
          cases known : surroundings.home with
          | none => rfl
          | some home => simp [missing home known]
        rw [unused]
        exact last
      | present known there provides =>
        rw [known, Option.map_some, Option.filter_some, if_pos there]
        exact .cons provides.fileLayer last
    exact .cons fromPlain.fileLayer (.cons fromHidden.fileLayer (.cons fromConfig.fileLayer own))

/-- Settings are taken from all sources, key by key: each has the value of the last source that
gives it one, or else the one when none is given. -/
theorem settings_of_sources {layers : List (List (String × SettingValue))}
    (sources : surroundings.Sources asked layers)
    (valid : ∀ layer ∈ layers, Setting.IsLayer layer) :
    ∃ settings, surroundings.settings asked = .ok settings ∧
      ∀ {α : Type} (setting : Setting α), setting.of settings =
        (layers.reverse.findSome? setting.value?).getD (setting.of .standard) := by
  obtain ⟨files, rfl, holds⟩ := sources.holds
  obtain ⟨isLayer, last⟩ := Setting.isLayer_flatten valid
  rw [List.flatten_append, List.flatten_singleton] at isLayer last
  refine ⟨_, settings_of_holds holds isLayer, fun setting => ?_⟩
  rw [Setting.layered, Setting.of_collected, last]

/-- A directory with two files of fixed names and another file, and two variables. -/
def workshop : Surroundings where
  at? path :=
    if path = "projections.toml" then
      some (.file (Checksum.textBytes "[compiler]\nextra_scalar_types = [\"Money\"]\n"))
    else if path = "config/projections.toml" then
      some (.file (Checksum.textBytes
        "[Compiler]\nextra_scalar_types = []\n\n[output]\nformat = \"compact\"\n"))
    else if path = "other.toml" then
      some (.file (Checksum.textBytes "[compiler]\nmethod_prefix = \"load\"\n"))
    else none
  home := none
  environment := [("PROJECTIONS__COMPILER__METHOD_PREFIX", "compute"),
    ("projections__output__include_schema", "false")]

/-- The layers that the sources of the workshop provide. -/
def workshopLayers : List (List (String × SettingValue)) :=
  [[("compiler", .group [("extra_scalar_types", .list [.text "Money"])])],
    [],
    [("Compiler", .group [("extra_scalar_types", .list [])]),
      ("output", .group [("format", .text "compact")])],
    [],
    [("compiler", .group [("method_prefix", .text "load")])],
    [("compiler.method_prefix", .text "compute"), ("output.include_schema", .bool false)]]

/-- The sources of the workshop provide its layers. -/
theorem workshop_sources : workshop.Sources (some "other.toml") workshopLayers := by
  have environment : workshop.environmentLayer =
      [("compiler.method_prefix", .text "compute"), ("output.include_schema", .bool false)] := by
    decide +kernel
  have toml (path : String) (extension : path ∈ ["projections.toml", "config/projections.toml",
      "other.toml"]) : Notation.ofPath? path = some .toml := by
    fin_cases extension <;> decide +kernel
  rw [workshopLayers, ← environment]
  refine .all (.present (firstFile_candidates rfl (toml _ ?_)) ?_) (.absent rfl)
    (.present (firstFile_candidates rfl (toml _ ?_)) ?_)
    (.absent fun home known => by cases known)
    (.present (firstFile_candidates rfl (toml _ ?_)) ?_)
  all_goals decide +kernel

/-- The names in the layers of the workshop and the paths that they stand for. -/
theorem workshop_names :
    (SettingValue.smallName "compiler" = "compiler" ∧
      SettingValue.smallName "Compiler" = "compiler" ∧
      SettingValue.smallName "output" = "output") ∧
    (SettingValue.smallName "extra_scalar_types" = "extra_scalar_types" ∧
      SettingValue.smallName "format" = "format" ∧
      SettingValue.smallName "method_prefix" = "method_prefix" ∧
      SettingValue.smallName "include_schema" = "include_schema") ∧
    SettingValue.pathOf "compiler.method_prefix" = [.name "compiler", .name "method_prefix"] ∧
    SettingValue.pathOf "output.include_schema" = [.name "output", .name "include_schema"] := by
  refine ⟨⟨Setting.smallName_group .methodLead, ?_, Setting.smallName_group .layout⟩,
    ⟨Setting.smallName_key .extraScalars, Setting.smallName_key .layout,
      Setting.smallName_key .methodLead, Setting.smallName_key .includesSchema⟩, ?_, ?_⟩
  all_goals decide +kernel

/-- What the sources of the workshop provide are layers of settings. -/
theorem workshop_layers : ∀ layer ∈ workshopLayers, Setting.IsLayer layer := by
  obtain ⟨⟨compiler, capital, output⟩, -, lead, schema⟩ := workshop_names
  have entries : ∀ layer ∈ workshopLayers, ∀ entry ∈ layer, SettingValue.IsEntry entry := by
    simp only [workshopLayers, List.forall_mem_cons]
    exact ⟨⟨.group (by rw [compiler]; decide), nofun⟩, nofun,
      ⟨.group (by rw [capital]; decide), .group (by rw [output]; decide), nofun⟩, nofun,
      ⟨.group (by rw [compiler]; decide), nofun⟩, ⟨.single lead rfl, .single schema rfl, nofun⟩,
      nofun⟩
  refine fun layer listed => Setting.isLayer_of_isMeant (entries layer listed) fun setting => ?_
  have compact : Setting.layout.format.readSetting (.text "compact") = .ok .compact :=
    Layout.readSetting_name .compact
  fin_cases listed <;> cases setting <;>
    simp [Setting.isMeant, compact, given?, SettingValue.entryValue?, SettingValue.last?,
      workshop_names, Setting.group, Setting.key, List.lookup_cons] <;>
    exact ⟨rfl, rfl⟩

/-- In the workshop the variable counts before the file that is asked for, the empty list before the
one with an item, and what no source gives is what it is when none is given. -/
theorem workshop_settings :
    (workshop.Sources (some "other.toml") workshopLayers ∧
      ∀ layer ∈ workshopLayers, Setting.IsLayer layer) ∧
    workshop.settings (some "other.toml") =
      .ok ⟨⟨"compute", [], true⟩, .standard, ⟨.compact, false⟩⟩ := by
  obtain ⟨settings, loaded, each⟩ := settings_of_sources workshop_sources workshop_layers
  refine ⟨⟨workshop_sources, workshop_layers⟩, loaded.trans (congrArg _ (Setting.ext ?_))⟩
  intro α setting
  rw [each]
  have compact : Setting.layout.format.readSetting (.text "compact") = .ok .compact :=
    Layout.readSetting_name .compact
  cases setting <;>
    simp [workshopLayers, List.findSome?, Setting.value?, compact, given?,
      SettingValue.entryValue?, SettingValue.last?, workshop_names, Setting.group, Setting.key,
      List.lookup_cons] <;>
    rfl

end Surroundings

end SchemaProjection
