import SchemaProjection.Text.Segment

/-!
# Command line options

A command takes options, each at most once, and arguments, as many as it names. The value of an
option follows it or is attached to it; a value that follows must not look like an option. Two
dashes end the options. The first argument that cannot be understood is misuse of the command,
and a request for help before it is answered.
-/
namespace SchemaProjection.Command

/-- The value of an option. -/
structure ValueSpec where
  /-- What the value is called in the help. -/
  name : String
  /-- Whether the value may be empty. -/
  allowsEmpty : Bool

/-- An option. -/
structure OptionSpec where
  /-- The letter of the option, if it has one. -/
  letter : Option Char
  /-- The name of the option. -/
  name : String
  /-- The value of the option; a flag has none. -/
  value : Option ValueSpec
  /-- What the option does. -/
  help : String

/-- A command. -/
structure CommandSpec where
  /-- The name of the command, after that of the command it belongs to. -/
  name : String
  /-- What the command does. -/
  about : String
  /-- The options. -/
  options : List OptionSpec
  /-- The arguments, as the help shows them, and what they are. -/
  arguments : List (String × String)
  /-- The commands that belong to this one, and what they do. -/
  commands : List (String × String)
  /-- Whether the command has an option that asks for help. -/
  answersHelp : Bool := true

/-- Why the arguments of a command are not those of a run. -/
inductive Stop where
  /-- The help of a command is asked for. -/
  | help (command : CommandSpec)
  /-- An argument cannot be understood, or one is missing. -/
  | misuse (command : CommandSpec)

/-- The arguments of a command. -/
structure Arguments where
  /-- The options that are given, with their values; flags have empty ones. -/
  options : List (String × String)
  /-- The other arguments in order. -/
  others : List String

namespace Arguments

/-- No arguments. -/
def none : Arguments := ⟨[], []⟩

/-- The value of an option. -/
def value? (arguments : Arguments) (name : String) : Option String :=
  arguments.options.lookup name

/-- Whether a flag is given. -/
def has (arguments : Arguments) (name : String) : Bool := (arguments.value? name).isSome

end Arguments

namespace CommandSpec

/-- Give an option, unless it is given already or its value may not be empty and is. -/
def give (command : CommandSpec) (option : OptionSpec) (value : String) (given : Arguments) :
    Except Stop Arguments :=
  let isEmpty := option.value.any fun spec => !spec.allowsEmpty && value.isEmpty
  if given.has option.name || isEmpty then .error (.misuse command)
  else .ok { given with options := given.options ++ [(option.name, value)] }

/-- A text that may be the value of the option before it. -/
def isValue (text : String) : Bool := text = "-" || !Text.begins "-" text

/-- A text divided at its first equals sign. -/
def divided (text : List Char) : List Char × Option (List Char) :=
  match text.dropWhile (· != '=') with
  | [] => (text, none)
  | _ :: value => (text.takeWhile (· != '='), some value)

/-- What an argument is. -/
inductive Shape where
  /-- Two dashes. -/
  | divider
  /-- An option with the value that is attached to it. -/
  | option (spec : OptionSpec) (attached : Option String)
  /-- A request for help. -/
  | help
  /-- An option that is not known. -/
  | unknown
  /-- Anything else. -/
  | other

/-- What an argument that begins with two dashes and goes on is. -/
def longShape (command : CommandSpec) (text : List Char) : Shape :=
  let (name, attached) := divided text
  let name := String.ofList name
  match command.options.find? (·.name == name) with
  | some spec => .option spec (attached.map String.ofList)
  | none => if name = "help" && attached.isNone && command.answersHelp then .help else .unknown

/-- What an argument that begins with one dash and a letter is. -/
def shortShape (command : CommandSpec) (letter : Char) (attached : List Char) : Shape :=
  match command.options.find? (·.letter == some letter) with
  | some spec =>
    match attached with
    | [] => .option spec none
    | '=' :: value => .option spec (some (String.ofList value))
    | value => .option spec (some (String.ofList value))
  | none => if letter = 'h' && command.answersHelp then .help else .unknown

/-- What an argument is. -/
def shape (command : CommandSpec) (argument : String) : Shape :=
  match argument.toList with
  | ['-', '-'] => .divider
  | '-' :: '-' :: text => command.longShape text
  | '-' :: letter :: attached => command.shortShape letter attached
  | _ => .other

/-- Take the arguments of a command. A command with others that belong to it takes options up to
the name of one of them; its further arguments are left over. -/
def take (command : CommandSpec) (given : Arguments) :
    List String → Except Stop (Arguments × List String)
  | [] => .ok (given, [])
  | argument :: rest =>
    match command.shape argument with
    | .help => .error (.help command)
    | .unknown => .error (.misuse command)
    | .divider =>
      if given.others.length + rest.length > command.arguments.length then
        .error (.misuse command)
      else .ok ({ given with others := given.others ++ rest }, [])
    | .other =>
      if !command.commands.isEmpty then .ok (given, argument :: rest)
      else if given.others.length < command.arguments.length then
        command.take { given with others := given.others ++ [argument] } rest
      else .error (.misuse command)
    | .option spec attached =>
      match spec.value, attached with
      | none, none => do
        let given ← command.give spec "" given
        command.take given rest
      | none, some _ => .error (.misuse command)
      | some _, some value => do
        let given ← command.give spec value given
        command.take given rest
      | some _, none =>
        match rest with
        | value :: rest =>
          if isValue value then do
            let given ← command.give spec value given
            command.take given rest
          else .error (.misuse command)
        | [] => .error (.misuse command)

/-- All arguments of a command without further commands. -/
def takeAll (command : CommandSpec) (arguments : List String) : Except Stop Arguments := do
  let (given, _) ← command.take .none arguments
  if given.others.length = command.arguments.length then .ok given else .error (.misuse command)

/-- The request for help as an option. -/
def helpOption : OptionSpec := ⟨some 'h', "help", none, "Print help"⟩

/-- An option as the help shows it. -/
def shown (option : OptionSpec) : String :=
  let letter := match option.letter with
    | some letter => "-" ++ String.singleton letter ++ ", "
    | none => "    "
  let value := match option.value with
    | some spec => " <" ++ spec.name ++ ">"
    | none => ""
  letter ++ "--" ++ option.name ++ value

/-- Lines of two columns under a heading. -/
def rowsUnder (heading : String) (rows : List (String × String)) : String :=
  let width := (rows.map fun row => row.1.length).foldl max 0
  let line (row : String × String) : String :=
    "  " ++ row.1 ++ String.ofList (List.replicate (width - row.1.length) ' ') ++ "  " ++ row.2 ++
      "\n"
  heading ++ ":\n" ++ String.join (rows.map line)

/-- The line that shows how a command is used. -/
def usage (command : CommandSpec) : String :=
  let options := if command.options.isEmpty then "" else " [OPTIONS]"
  let commands := if command.commands.isEmpty then "" else " <COMMAND>"
  "Usage: " ++ command.name ++ options ++ commands ++
    String.join (command.arguments.map fun argument => " " ++ argument.1) ++ "\n"

/-- The help of a command. -/
def helpText (command : CommandSpec) : String :=
  let options := command.options ++ if command.answersHelp then [helpOption] else []
  let options := options.map fun option => (shown option, option.help)
  let sections := [("Commands", command.commands), ("Arguments", command.arguments),
    ("Options", options)].filter fun (_, rows) => !rows.isEmpty
  command.about ++ "\n\n" ++ command.usage ++ "\n" ++
    Text.joined "\n" (sections.map fun (heading, rows) => rowsUnder heading rows)

end CommandSpec

end SchemaProjection.Command
